import Tenancy.Cluster.Schema.Pod
import Tenancy.Cluster.Schema.Workload

/-!
# Objects of the cluster

The kinds of objects that policies decide on or look up, each with the parts that
matter to a decision.  All other parts have to have their forms and are not kept.
-/

namespace Tenancy

/-- A namespace. -/
structure Namespace where
  metadata : Metadata
  deriving Repr, DecidableEq, Inhabited

/-- The requests of one container for CPU and memory. -/
structure Container where
  requests : Option (SortedMap String)
  deriving Repr, DecidableEq

/-- What a pod is to run, and where. -/
structure PodSpec where
  containers : List Container
  nodeSelector : Option (SortedMap String)
  deriving Repr, DecidableEq

/-- A pod. -/
structure Pod where
  metadata : Metadata
  spec : Option PodSpec
  phase : Option String
  deriving Repr, DecidableEq

/-- The pods of a workload that has replicas. -/
structure ReplicaSpec where
  replicas : Option Int
  matchLabels : Option (SortedMap String)
  template : Option PodSpec
  deriving Repr, DecidableEq

/-- A deployment. -/
structure Deployment where
  metadata : Metadata
  spec : Option ReplicaSpec
  deriving Repr, DecidableEq

/-- A stateful set. -/
structure StatefulSet where
  metadata : Metadata
  spec : Option ReplicaSpec
  deriving Repr, DecidableEq

/-- A service. -/
structure Service where
  metadata : Metadata
  serviceType : Option String
  deriving Repr, DecidableEq

/-- A map of configuration texts. -/
structure ConfigMap where
  metadata : Metadata
  data : Option (SortedMap String)
  deriving Repr, DecidableEq

/-- An object of any kind. -/
structure AnyObject where
  metadata : Metadata
  deriving Repr, DecidableEq

/-! ## Namespaces -/

/-- What a namespace may say besides its metadata. -/
def Namespace.forms : List (String × Normaliser) :=
  [("spec", .fields [("finalizers", .listOf .text)]),
    ("status", .fields [("conditions", .listOf (.condition ["lastTransitionTime"] [])),
      ("phase", .text)])]

instance : Served Namespace where
  resource := ⟨"", "v1", "Namespace", "namespaces"⟩
  ofJson? json := do
    let (metadata, members) ← Resource.open? ⟨"", "v1", "Namespace", "namespaces"⟩ json
    guard (Normaliser.accepts Namespace.forms members)
    return ⟨metadata⟩
  metadata := Namespace.metadata

/-! ## Pods -/

/-- Read the requests for resources. -/
def Container.requests? (json : Json) : Option (Option (SortedMap String)) := do
  let members ← json.object?
  guard (Normaliser.accepts Normaliser.resourceForms members)
  Json.optional Json.textMap? members "requests"

/-- Read a container. -/
def Container.ofJson? (json : Json) : Option Container := do
  let members ← json.object?
  guard (Normaliser.accepts Normaliser.containerForms members)
  let requests ← Json.optional Container.requests? members "resources"
  return ⟨requests.join⟩

/-- Read the specification of a pod. -/
def PodSpec.ofJson? (json : Json) : Option PodSpec := do
  let members ← json.object?
  guard (Normaliser.accepts Normaliser.podForms members)
  let containers ← Json.optional (Json.listOf? Container.ofJson?) members "containers"
  let nodeSelector ← Json.optional Json.textMap? members "nodeSelector"
  return ⟨containers.getD [], nodeSelector⟩

/-- Read the phase in the status of a pod. -/
def Pod.phase? (json : Json) : Option (Option String) := do
  let members ← json.object?
  guard (Normaliser.accepts Normaliser.podStatusForms members)
  Json.optional Json.text? members "phase"

instance : Served Pod where
  resource := ⟨"", "v1", "Pod", "pods"⟩
  ofJson? json := do
    let (metadata, members) ← Resource.open? ⟨"", "v1", "Pod", "pods"⟩ json
    let spec ← Json.optional PodSpec.ofJson? members "spec"
    let phase ← Json.optional Pod.phase? members "status"
    return ⟨metadata, spec, phase.join⟩
  metadata := Pod.metadata

/-! ## Workloads with replicas -/

/-- Read the labels that a selector asks for. -/
def ReplicaSpec.matchLabels? (json : Json) : Option (Option (SortedMap String)) := do
  let members ← json.object?
  guard (Normaliser.accepts Normaliser.selectorForms members)
  Json.optional Json.textMap? members "matchLabels"

/-- Read the template of the pods of a workload. -/
def ReplicaSpec.template? (json : Json) : Option (Option PodSpec) := do
  let members ← json.object?
  let _ ← Json.optional Metadata.ofJson? members "metadata"
  Json.optional PodSpec.ofJson? members "spec"

/-- Read the specification of a workload that has replicas, with the forms of what else a
workload of its kind may say. -/
def ReplicaSpec.ofJson? (forms : List (String × Normaliser)) (json : Json) :
    Option ReplicaSpec := do
  let members ← json.object?
  guard (Normaliser.accepts forms members)
  let replicas ← Json.optional (Json.signed? 32) members "replicas"
  let matchLabels ← Json.optional ReplicaSpec.matchLabels? members "selector"
  let template ← Json.optional ReplicaSpec.template? members "template"
  return ⟨replicas, matchLabels.join, template.join⟩

instance : Served Deployment where
  resource := ⟨"apps", "v1", "Deployment", "deployments"⟩
  ofJson? json := do
    let (metadata, members) ← Resource.open? ⟨"apps", "v1", "Deployment", "deployments"⟩ json
    guard (Normaliser.accepts [("status", .deploymentStatus)] members)
    let spec ← Json.optional (ReplicaSpec.ofJson? Normaliser.deploymentForms) members "spec"
    return ⟨metadata, spec⟩
  metadata := Deployment.metadata

instance : Served StatefulSet where
  resource := ⟨"apps", "v1", "StatefulSet", "statefulsets"⟩
  ofJson? json := do
    let (metadata, members) ← Resource.open? ⟨"apps", "v1", "StatefulSet", "statefulsets"⟩ json
    guard (Normaliser.accepts [("status", .statefulSetStatus)] members)
    let spec ← Json.optional (ReplicaSpec.ofJson? Normaliser.statefulSetForms) members "spec"
    return ⟨metadata, spec⟩
  metadata := StatefulSet.metadata

/-! ## Services and texts -/

/-- Read the type in the specification of a service. -/
def Service.type? (json : Json) : Option (Option String) := do
  let members ← json.object?
  guard (Normaliser.accepts Normaliser.serviceForms members)
  Json.optional Json.text? members "type"

instance : Served Service where
  resource := ⟨"", "v1", "Service", "services"⟩
  ofJson? json := do
    let (metadata, members) ← Resource.open? ⟨"", "v1", "Service", "services"⟩ json
    guard (Normaliser.accepts [("status", .serviceStatus)] members)
    let serviceType ← Json.optional Service.type? members "spec"
    return ⟨metadata, serviceType.join⟩
  metadata := Service.metadata

/-- What a map of configuration texts may say besides its texts. -/
def ConfigMap.forms : List (String × Normaliser) :=
  [("binaryData", .mapOf .bytes), ("immutable", .bool)]

instance : Served ConfigMap where
  resource := ⟨"", "v1", "ConfigMap", "configmaps"⟩
  ofJson? json := do
    let (metadata, members) ← Resource.open? ⟨"", "v1", "ConfigMap", "configmaps"⟩ json
    guard (Normaliser.accepts ConfigMap.forms members)
    let data ← Json.optional Json.textMap? members "data"
    return ⟨metadata, data⟩
  metadata := ConfigMap.metadata

/-! ## Objects of any kind -/

/-- Read an object of any kind: metadata may be absent but not null. -/
def AnyObject.ofJson? (json : Json) : Option AnyObject := do
  let members ← json.object?
  match Json.find? members "metadata" with
  | none => return ⟨.empty⟩
  | some metadata => return ⟨← Metadata.ofJson? metadata⟩

end Tenancy
