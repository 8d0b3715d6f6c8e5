import Tenancy.Proofs.Config.Policies
import Tenancy.Proofs.Policy.Basic

/-!
# Verdicts of the policies

Each policy comes to one of a few verdicts, so what holds of those holds of whatever it
concludes.
-/

namespace Tenancy

universe u

/-- Whatever a look-up answers has a property. -/
def Outcome.Concludes {α : Type u} (holds : α → Prop) (outcome : Outcome α) : Prop :=
  ∀ value, outcome.result = .ok value → holds value

namespace Lookup

variable {α β : Type u} {cluster : Cluster}

theorem concludes_pure {holds : α → Prop} {value : α} (isSo : holds value) :
    ((Pure.pure value : Lookup α) cluster).Concludes holds := by
  intro other same
  cases same
  exact isSo

/-- A look-up that goes on with another concludes what the other does. -/
theorem concludes_bind {holds : β → Prop} {first : Lookup α} {next : α → Lookup β}
    (each : ∀ value, (next value cluster).Concludes holds) :
    ((first >>= next) cluster).Concludes holds := by
  intro other concluded
  obtain ⟨value, _, concluded⟩ := result_bind_eq_ok_iff.mp concluded
  exact each value other concluded

end Lookup

section Verdicts

variable {holds : Verdict → Prop} {skipper : Skipper} {request : Request} {cluster : Cluster}

theorem OrganizationRules.concludes_decide {rules : OrganizationRules}
    (deletion : holds (.allowed "deletion"))
    (kept : ∀ old new, holds (rules.decideKept old new))
    (named : ∀ organization, holds (decideNamed request.caller organization))
    (defaulted : ∀ created preferred,
      holds (rules.decideDefault request.caller created preferred))
    (none : holds (.allowed "namespace has no organization")) (states : States Namespace) :
    (rules.decide request states cluster).Concludes holds := by
  obtain ⟨old, new⟩ := states
  cases new with
  | none => exact Lookup.concludes_pure deletion
  | some created =>
      simp only [decide]
      cases (if request.operation = .update then rules.organizationOf old else Option.none) with
      | some owner => exact Lookup.concludes_pure (kept owner _)
      | none =>
          cases rules.organizationOf (some created) with
          | some organization => exact Lookup.concludes_pure (named organization)
          | none =>
              dsimp only
              split
              · exact Lookup.concludes_bind fun preferred =>
                  Lookup.concludes_pure (defaulted created preferred)
              · exact Lookup.concludes_pure none

namespace Policy

theorem concludes_namespaceMetadata {rules : MetadataRules}
    (deletion : holds (.allowed "deletion does not change metadata"))
    (checked : ∀ report : Report MetadataFault,
      holds (.ofReport "namespace metadata changes are allowed" report))
    (states : States Namespace) :
    ((namespaceMetadata skipper rules).decide request states cluster).Concludes holds := by
  simp only [namespaceMetadata]
  split
  · exact Lookup.concludes_pure deletion
  · exact Lookup.concludes_pure (checked _)

theorem concludes_nodeSelector {selectors : NodeSelectors}
    (later : holds (.allowed "node selectors are only defaulted on creation"))
    (none : holds (.allowed "no pod"))
    (completed : ∀ selector pod, holds (NodeSelectors.complete selector pod))
    (states : States Pod) :
    ((nodeSelector skipper selectors).decide request states cluster).Concludes holds := by
  obtain ⟨old, new⟩ := states
  simp only [nodeSelector]
  split
  · exact Lookup.concludes_pure later
  · cases new with
    | none => exact Lookup.concludes_pure none
    | some pod =>
        exact Lookup.concludes_bind fun selector => Lookup.concludes_pure (completed selector pod)

theorem concludes_namespaceQuota {limit : NamespaceLimit}
    (later : holds (.allowed "only creations count against the quota"))
    (none : holds (.allowed "namespace belongs to no organization"))
    (counted : ∀ organization count quota,
      holds (NamespaceLimit.decideCount organization count quota))
    (states : States Namespace) :
    ((namespaceQuota skipper limit).decide request states cluster).Concludes holds := by
  simp only [namespaceQuota]
  split
  · exact Lookup.concludes_pure later
  · cases states.new.bind (·.metadata.label? limit.organizationLabel) with
    | none => exact Lookup.concludes_pure none
    | some organization =>
        exact Lookup.concludes_bind fun siblings => Lookup.concludes_bind fun quota =>
          Lookup.concludes_pure (counted organization siblings.length quota)

theorem concludes_fairUse {limit : Decimal} (deletion : holds (.allowed "deletions free resources"))
    (none : holds (.allowed "no workload"))
    (measured : ∀ ratio : Ratio, holds (ratio.verdict limit)) (states : States Workload) :
    ((fairUse skipper limit).decide request states cluster).Concludes holds := by
  obtain ⟨old, new⟩ := states
  simp only [fairUse]
  split
  · exact Lookup.concludes_pure deletion
  · cases new with
    | none => exact Lookup.concludes_pure none
    | some workload =>
        exact Lookup.concludes_bind fun pods => Lookup.concludes_bind fun ratio =>
          Lookup.concludes_pure (measured ratio)

theorem concludes_reservedNames {byKind : SortedMap Globs}
    (none : holds (.allowed ("no reserved " ++ request.kind ++ " names")))
    (named : ∀ (reserved : Globs) name, holds (reserved.decideName request name))
    (states : States AnyObject) :
    ((reservedNames skipper byKind).decide request states cluster).Concludes holds := by
  simp only [reservedNames]
  cases byKind.get? request.kind with
  | none => exact Lookup.concludes_pure none
  | some reserved => exact Lookup.concludes_pure (named reserved _)

theorem concludes_loadBalancer {protectedKeys : Globs} (deletion : holds (.allowed "deletion"))
    (other : holds (.allowed "not a load balancer"))
    (checked : ∀ report : Report ProtectedAnnotation,
      holds (.ofReport "no protected annotation changed" report))
    (states : States Service) :
    ((loadBalancer skipper protectedKeys).decide request states cluster).Concludes holds := by
  simp only [loadBalancer]
  split
  · exact Lookup.concludes_pure deletion
  · split
    · exact Lookup.concludes_pure other
    · exact Lookup.concludes_pure (checked _)

end Policy

end Verdicts

end Tenancy
