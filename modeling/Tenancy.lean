import Tenancy.Admission.Service
import Tenancy.AllowList
import Tenancy.Bypass
import Tenancy.Change
import Tenancy.Cluster.Server
import Tenancy.Cluster.Snapshot
import Tenancy.Config.Document
import Tenancy.Config.Policies
import Tenancy.Json.Reader
import Tenancy.Json.Writer
import Tenancy.Main
import Tenancy.Policy.Event
import Tenancy.Proofs.Admission.Service
import Tenancy.Proofs.AllowList.Growth
import Tenancy.Proofs.Bypass.Leaves
import Tenancy.Proofs.FairUse.Replicas
import Tenancy.Proofs.FairUse.Warning
import Tenancy.Proofs.Glob.Expression
import Tenancy.Proofs.Policy.Addressed
import Tenancy.Proofs.Policy.BadRequest
import Tenancy.Proofs.Policy.Convergence
import Tenancy.Proofs.Policy.FailClosed
import Tenancy.Proofs.Policy.FairUse
import Tenancy.Proofs.Policy.LoadBalancer
import Tenancy.Proofs.Policy.MetadataFaults
import Tenancy.Proofs.Policy.NamespaceMetadata
import Tenancy.Proofs.Policy.NamespaceQuota
import Tenancy.Proofs.Policy.ProtectedChanges
import Tenancy.Proofs.Policy.ReservedNames
import Tenancy.Proofs.Policy.Skipped
import Tenancy.Proofs.Quota.Annotation
