import Tenancy.Proofs.Json.PatchText
import Tenancy.Proofs.Policy.Verdicts

/-!
# Patches of the policies

Whatever the configuration, its policies say by pointers what they patch: they name a place by
its segments, which are escaped.
-/

namespace Tenancy

/-- If a verdict is a patch, its operations are addressed by pointers. -/
def Verdict.Addresses : Verdict → Prop
  | .patch _ operations => ∀ operation ∈ operations, operation.Addresses
  | _ => True

namespace Verdict

theorem addresses_patched (reason : String) {operations : List PatchOperation}
    (addresses : ∀ operation ∈ operations, operation.Addresses) :
    (patched reason operations).Addresses := by
  unfold patched
  split
  · trivial
  · exact addresses

theorem addresses_ofReport {ε : Type} [Described ε] (reason : String) (report : Report ε) :
    (ofReport reason report).Addresses := by
  unfold ofReport
  split <;> trivial

end Verdict

namespace OrganizationRules

theorem addresses_labelOperations (rules : OrganizationRules) (created : Namespace)
    (organization : String) :
    ∀ operation ∈ rules.labelOperations created organization, operation.Addresses := by
  intro operation member
  unfold labelOperations at member
  dsimp only at member
  split at member
  · simp only [List.mem_cons, List.not_mem_nil, or_false] at member
    rcases member with rfl | rfl <;> exact PatchOperation.addresses_addAt _ _
  · obtain rfl := List.mem_singleton.mp member
    exact PatchOperation.addresses_addAt _ _

theorem addresses_decideDefault (rules : OrganizationRules) (caller : Caller)
    (created : Namespace) (preferred : Option String) :
    (rules.decideDefault caller created preferred).Addresses := by
  cases preferred with
  | none => trivial
  | some organization =>
      unfold decideDefault
      dsimp only
      split
      · exact Verdict.addresses_patched _ (rules.addresses_labelOperations created organization)
      · trivial

theorem addresses_decideKept (rules : OrganizationRules) (old : String) (new : Option String) :
    (rules.decideKept old new).Addresses := by
  unfold decideKept
  split <;> trivial

theorem addresses_decideNamed (caller : Caller) (organization : String) :
    (decideNamed caller organization).Addresses := by
  unfold decideNamed
  split <;> trivial

end OrganizationRules

namespace NodeSelectors

theorem addresses_operations (missing : SortedMap String)
    (existing : Option (SortedMap String)) :
    ∀ operation ∈ operations missing existing, operation.Addresses := by
  intro operation member
  cases existing with
  | none =>
      obtain rfl := List.mem_singleton.mp member
      exact PatchOperation.addresses_addAt _ _
  | some _ =>
      obtain ⟨entry, _, rfl⟩ := List.mem_map.mp member
      exact PatchOperation.addresses_addAt _ _

theorem addresses_complete (selector : SortedMap String) (pod : Pod) :
    (complete selector pod).Addresses := by
  unfold complete
  dsimp only
  split
  · trivial
  · exact Verdict.addresses_patched _ (addresses_operations _ _)

end NodeSelectors

theorem NamespaceLimit.addresses_decideCount (organization : String) (count quota : Nat) :
    (decideCount organization count quota).Addresses := by
  unfold decideCount
  split <;> trivial

theorem Ratio.addresses_verdict (ratio : Ratio) (limit : Decimal) :
    (ratio.verdict limit).Addresses := by
  unfold verdict
  split <;> trivial

theorem Globs.addresses_decideName (reserved : Globs) (request : Request) (name : String) :
    (reserved.decideName request name).Addresses := by
  unfold decideName
  split <;> trivial

/-- A policy whose verdicts address what they patch patches nothing else. -/
theorem Policy.addresses_of_concludes {α : Type} {policy : Policy α} {request : Request}
    {cluster : Cluster}
    (concludes : ∀ states,
      (policy.decide request states cluster).Concludes Verdict.Addresses)
    {reason : String} {operations : List PatchOperation}
    (patches : (policy.handler.evaluate request cluster).decision = .patch reason operations) :
    ∀ operation ∈ operations, operation.Addresses := by
  obtain ⟨_, states, _, concluded⟩ := exists_states_of_decision_eq_patch patches
  exact concludes states _ concluded

namespace Config

variable {config : Config} {handlers : List Handler} {handler : Handler} {request : Request}
  {cluster : Cluster} {reason : String} {operations : List PatchOperation}

theorem Makes.addresses (makes : config.Makes handler)
    (patches : (handler.evaluate request cluster).decision = .patch reason operations) :
    ∀ operation ∈ operations, operation.Addresses := by
  cases makes with
  | namespaceMetadata =>
      exact Policy.addresses_of_concludes
        (Policy.concludes_namespaceMetadata trivial (Verdict.addresses_ofReport _)) patches
  | organization =>
      exact Policy.addresses_of_concludes
        (OrganizationRules.concludes_decide trivial (OrganizationRules.addresses_decideKept _)
          (OrganizationRules.addresses_decideNamed _)
          (OrganizationRules.addresses_decideDefault _ _) trivial) patches
  | nodeSelector =>
      exact Policy.addresses_of_concludes
        (Policy.concludes_nodeSelector trivial trivial NodeSelectors.addresses_complete) patches
  | namespaceQuota =>
      exact Policy.addresses_of_concludes
        (Policy.concludes_namespaceQuota trivial trivial
          NamespaceLimit.addresses_decideCount) patches
  | fairUse =>
      exact Policy.addresses_of_concludes
        (Policy.concludes_fairUse trivial trivial fun ratio => ratio.addresses_verdict _) patches
  | reservedNames =>
      exact Policy.addresses_of_concludes
        (Policy.concludes_reservedNames trivial
          fun reserved => reserved.addresses_decideName request) patches
  | loadBalancer =>
      exact Policy.addresses_of_concludes
        (Policy.concludes_loadBalancer trivial trivial (Verdict.addresses_ofReport _)) patches

/-- The policies of a configuration say by pointers what they patch. -/
theorem addresses_of_mem_policies (built : config.policies = .ok handlers)
    (member : handler ∈ handlers)
    (patches : (handler.evaluate request cluster).decision = .patch reason operations) :
    ∀ operation ∈ operations, operation.Addresses :=
  (makes_of_mem_policies built member).addresses patches

end Config

end Tenancy
