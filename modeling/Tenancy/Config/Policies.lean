import Tenancy.Config.Basic
import Tenancy.Policy.FairUse
import Tenancy.Policy.LoadBalancer
import Tenancy.Policy.NamespaceMetadata
import Tenancy.Policy.NamespaceQuota
import Tenancy.Policy.NodeSelector
import Tenancy.Policy.Organization
import Tenancy.Policy.ReservedNames

/-!
# The policies of a configuration

A configuration makes seven policies.  All of them let privileged callers pass,
and those on pods let everything pass outside the namespaces of organizations.
-/

namespace Tenancy.Config

/-- The callers that policies do not apply to. -/
def privileges (config : Config) : Privileges where
  groups := .ofPatterns config.privilegedGroups
  users := .ofPatterns config.privilegedUsers
  roles := .ofPatterns config.privilegedRoles
  clusterRoles := .ofPatterns config.privilegedClusterRoles

/-- Skips the requests of privileged callers. -/
def privilegedSkipper (config : Config) : Skipper := .privileged config.privileges

/-- Skips the requests of privileged callers, and those in namespaces that belong
to no organization. -/
def workloadSkipper (config : Config) : Skipper :=
  .anyOf [config.privilegedSkipper, .outsideOrganizations config.organizationLabel]

/-- The rules for label values, if there are any. -/
def labelValues (config : Config) : Except AllowList.Fault (Option AllowList) :=
  if config.namespaceLabelValueRules.isEmpty then .ok none
  else
    (AllowList.empty.addAll
      (config.namespaceLabelValueRules.map fun rule => (rule.key, rule.value))).map some

/-- What namespaces may be labelled and annotated with, given the rules for label
values. -/
def metadataRules (config : Config) (labelValues : Option AllowList) : MetadataRules where
  labels := .ofPatterns config.allowedNamespaceLabels
  annotations := .ofPatterns config.allowedNamespaceAnnotations
  labelValues := labelValues
  overrides := config.quotaOverridePrefix.map OverrideResolver.ofPrefix

/-- The globs for the reserved names of each kind; of rules for one kind the last
counts. -/
def reservedGlobs (config : Config) : SortedMap Globs :=
  .ofList (config.reservedNames.map fun rule => (rule.kind, .ofPatterns rule.names))

/-- The policies of a configuration.  The rules for label values are read before
the limit on memory, and the first that cannot be read is reported. -/
def policies (config : Config) : Except Fault (List Handler) := do
  let labelValues ← config.labelValues.mapError Fault.labelValue
  let limit ← (Quantity.parse config.memoryPerCoreLimit).mapError Fault.limit
  let skipper := config.privilegedSkipper
  return [
    (Policy.namespaceMetadata skipper (config.metadataRules labelValues)).handler,
    (Policy.organization skipper
      ⟨config.organizationLabel, config.defaultOrganizationAnnotation⟩).handler,
    (Policy.nodeSelector config.workloadSkipper
      ⟨config.defaultNodeSelector, config.nodeClassLabel, config.nodeSelectorsByClass⟩).handler,
    (Policy.namespaceQuota skipper
      ⟨config.organizationLabel, config.defaultNamespaceQuota,
        config.namespaceQuotaOverrideNamespace⟩).handler,
    (Policy.fairUse config.workloadSkipper limit).handler,
    (Policy.reservedNames skipper config.reservedGlobs).handler,
    (Policy.loadBalancer skipper
      (.ofPatterns config.protectedLoadBalancerAnnotations)).handler]

end Tenancy.Config
