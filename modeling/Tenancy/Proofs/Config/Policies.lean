import Tenancy.Config.Policies
import Tenancy.Proofs.Cluster.Lookup

/-!
# The handlers that a configuration makes

A configuration makes one handler for each of its seven policies, once the rules for
label values and the limit on memory are read.  What is said of the handlers of all
configurations is shown policy by policy.
-/

namespace Tenancy

namespace Config

/-- A handler that a configuration makes, by the policy that it is the handler of. -/
inductive Makes (config : Config) : Handler → Prop
  | namespaceMetadata {labelValues : Option AllowList} :
      config.labelValues = .ok labelValues →
        Makes config (Policy.namespaceMetadata config.privilegedSkipper
          (config.metadataRules labelValues)).handler
  | organization :
      Makes config (Policy.organization config.privilegedSkipper
        ⟨config.organizationLabel, config.defaultOrganizationAnnotation⟩).handler
  | nodeSelector :
      Makes config (Policy.nodeSelector config.workloadSkipper
        ⟨config.defaultNodeSelector, config.nodeClassLabel,
          config.nodeSelectorsByClass⟩).handler
  | namespaceQuota :
      Makes config (Policy.namespaceQuota config.privilegedSkipper
        ⟨config.organizationLabel, config.defaultNamespaceQuota,
          config.namespaceQuotaOverrideNamespace⟩).handler
  | fairUse {limit : Decimal} : Quantity.parse config.memoryPerCoreLimit = .ok limit →
      Makes config (Policy.fairUse config.workloadSkipper limit).handler
  | reservedNames :
      Makes config (Policy.reservedNames config.privilegedSkipper config.reservedGlobs).handler
  | loadBalancer :
      Makes config (Policy.loadBalancer config.privilegedSkipper
        (.ofPatterns config.protectedLoadBalancerAnnotations)).handler

variable {config : Config} {handlers : List Handler} {handler : Handler}

/-- The handlers of a configuration are those of its policies. -/
theorem makes_of_mem_policies (built : config.policies = .ok handlers)
    (member : handler ∈ handlers) : config.Makes handler := by
  unfold policies at built
  cases rules : config.labelValues with
  | error fault => simp [rules, bind, Except.bind, Except.mapError] at built
  | ok labelValues =>
      cases parsed : Quantity.parse config.memoryPerCoreLimit with
      | error fault => simp [rules, parsed, bind, Except.bind, Except.mapError] at built
      | ok limit =>
          simp only [rules, parsed, bind, Except.bind, Except.mapError, pure,
            Except.pure] at built
          cases built
          simp only [List.mem_cons, List.not_mem_nil, or_false] at member
          rcases member with rfl | rfl | rfl | rfl | rfl | rfl | rfl
          · exact .namespaceMetadata rules
          · exact .organization
          · exact .nodeSelector
          · exact .namespaceQuota
          · exact .fairUse parsed
          · exact .reservedNames
          · exact .loadBalancer

end Config

end Tenancy
