import Tenancy.Proofs.Quantity.Grammar
import Tenancy.Proofs.Quota.Override

/-!
# Limits after overrides

Overrides are applied one after the other, and one whose limit is no quantity changes nothing.
So a limit is set by the last override of its resource that is a quantity, and stays as it was
if there is none.  Nothing else of a quota changes, and to apply the same overrides again
changes nothing more.
-/

namespace Tenancy

namespace LimitOverride

/-! ## One list of overrides -/

/-- Whether the limit of an override is a quantity. -/
def isQuantity (override : LimitOverride) : Bool := (Quantity.parse override.limit).isOk

/-- The limit that the last override of a resource sets, of those that are quantities. -/
def lastLimit? (overrides : List LimitOverride) (resource : String) : Option String :=
  (overrides.reverse.find? fun override =>
    override.resource == resource && override.isQuantity).map LimitOverride.limit

theorem isQuantity_iff (override : LimitOverride) :
    override.isQuantity = true ↔ ∃ number, Quantity.parse override.limit = .ok number := by
  rw [isQuantity]
  cases Quantity.parse override.limit with
  | ok number => simp [Except.isOk, Except.toBool]
  | error fault => simp [Except.isOk, Except.toBool]

theorem isQuantity_eq_false {override : LimitOverride} {fault : Quantity.Invalid}
    (failed : Quantity.parse override.limit = .error fault) : override.isQuantity = false := by
  rw [isQuantity, failed]
  rfl

/-- An override whose limit is no quantity is reported with the limit as it is given. -/
theorem faults_eq (override : LimitOverride) :
    override.faults = if override.isQuantity then []
      else [.invalidLimit override.resource ⟨override.limit⟩] := by
  rw [faults, isQuantity]
  cases isRead : Quantity.parse override.limit with
  | ok number => rfl
  | error fault =>
      rw [Quantity.parse_eq_error isRead]
      rfl

theorem faults_eq_nil_iff (override : LimitOverride) :
    override.faults = [] ↔ override.isQuantity = true := by
  rw [faults_eq]
  cases override.isQuantity <;> simp

theorem flatMap_faults (overrides : List LimitOverride) :
    overrides.flatMap faults = (overrides.filter (!·.isQuantity)).map fun override =>
      .invalidLimit override.resource ⟨override.limit⟩ := by
  induction overrides with
  | nil => rfl
  | cons override rest inductionHypothesis =>
      rw [List.flatMap_cons, inductionHypothesis, faults_eq, List.filter_cons]
      cases override.isQuantity <;> rfl

theorem lastLimit?_cons (override : LimitOverride) (rest : List LimitOverride)
    (resource : String) :
    lastLimit? (override :: rest) resource =
      (lastLimit? rest resource).or
        (if override.resource = resource ∧ override.isQuantity = true then some override.limit
          else none) := by
  simp only [lastLimit?, List.reverse_cons, List.find?_append, Option.map_or]
  by_cases same : override.resource = resource <;> cases isQuantity : override.isQuantity <;>
    simp [same, isQuantity]

/-- The last quantity for a resource counts, and without one the limit stays as it was. -/
theorem get?_applyAll (overrides : List LimitOverride) (limits : SortedMap String)
    (resource : String) :
    (applyAll overrides limits).1.get? resource =
      (lastLimit? overrides resource).or (limits.get? resource) := by
  induction overrides generalizing limits with
  | nil => rfl
  | cons override rest inductionHypothesis =>
      rw [applyAll, lastLimit?_cons]
      cases isRead : Quantity.parse override.limit with
      | ok number =>
          have isQuantity := override.isQuantity_iff.mpr ⟨number, isRead⟩
          dsimp only
          rw [inductionHypothesis, SortedMap.get?_insert, Option.or_assoc]
          by_cases same : override.resource = resource <;> simp [same, isQuantity]
      | error fault =>
          have noQuantity := isQuantity_eq_false isRead
          dsimp only
          rw [inductionHypothesis]
          simp [noQuantity]

/-- To apply overrides again changes nothing and reports the same. -/
theorem applyAll_applyAll (overrides : List LimitOverride) (limits : SortedMap String) :
    applyAll overrides (applyAll overrides limits).1 = applyAll overrides limits := by
  apply Prod.ext
  · apply SortedMap.ext_get?
    intro resource
    rw [get?_applyAll, get?_applyAll, ← Option.or_assoc, Option.or_self]
  · apply Report.eq_of_causes_eq
    rw [causes_applyAll, causes_applyAll]

end LimitOverride

/-! ## Quotas -/

namespace Overrides

/-- The overrides that are listed for the name of a quota. -/
def listedFor (overrides : Overrides) (quota : ResourceQuota) : List LimitOverride :=
  (overrides.get? quota.metadata.anyName).getD []

end Overrides

namespace ResourceQuota

/-- The limit of a quota on a resource, if it has one. -/
def limit? (quota : ResourceQuota) (resource : String) : Option String :=
  (quota.spec.bind QuotaSpec.hard).bind (·.get? resource)

/-- What a quota is before and after overrides: each limit is the last quantity that is listed for
it, or else what it was; nothing but the limits of its specification changes; and if its name
has no overrides, nothing changes at all. -/
structure IsOverridden (overrides : Overrides) (before after : ResourceQuota) : Prop where
  limit?_eq : ∀ resource, after.limit? resource =
    (LimitOverride.lastLimit? (overrides.listedFor before) resource).or (before.limit? resource)
  metadata_eq : after.metadata = before.metadata
  others_eq : { after.spec.getD .empty with hard := none } =
    { before.spec.getD .empty with hard := none }
  eq_of_unnamed : overrides.get? before.metadata.anyName = none → after = before

variable (overrides : Overrides)

theorem override_of_none {quota : ResourceQuota}
    (unnamed : overrides.get? quota.metadata.anyName = none) :
    override overrides quota = (quota, .empty) := by
  rw [override, unnamed]

theorem isOverridden_override (quota : ResourceQuota) :
    IsOverridden overrides quota (override overrides quota).1 := by
  cases named : overrides.get? quota.metadata.anyName with
  | none =>
      rw [override_of_none overrides named]
      constructor
      case limit?_eq =>
        intro resource
        rw [Overrides.listedFor, named]
        rfl
      case metadata_eq => rfl
      case others_eq => rfl
      case eq_of_unnamed => exact fun _ => rfl
  | some listed =>
      have applied (resource : String) := LimitOverride.get?_applyAll listed
        ((quota.spec.getD .empty).hard.getD .empty) resource
      have before (resource : String) :
          ((quota.spec.getD .empty).hard.getD .empty).get? resource = quota.limit? resource := by
        rw [limit?]
        rcases quota.spec with _ | ⟨hard, scopes, selector⟩
        · rfl
        · cases hard <;> rfl
      rw [override, named]
      constructor
      case limit?_eq =>
        intro resource
        rw [Overrides.listedFor, named, Option.getD_some, ← before, ← applied]
        rfl
      case metadata_eq => rfl
      case others_eq => rfl
      case eq_of_unnamed =>
        intro unnamed
        cases named.symm.trans unnamed

/-- To apply overrides to a quota again changes nothing and reports the same. -/
theorem override_override (quota : ResourceQuota) :
    override overrides (override overrides quota).1 = override overrides quota := by
  cases named : overrides.get? quota.metadata.anyName with
  | none => rw [override_of_none overrides named, override_of_none overrides named]
  | some listed =>
      have again := LimitOverride.applyAll_applyAll listed
        ((quota.spec.getD .empty).hard.getD .empty)
      simp only [override, named, Option.getD_some, again]

theorem overrideAll_overrideAll (quotas : List ResourceQuota) :
    overrideAll overrides (overrideAll overrides quotas).1 = overrideAll overrides quotas := by
  have again : (quotas.map fun quota => (override overrides quota).1).map (override overrides) =
      quotas.map (override overrides) := by
    rw [List.map_map]
    exact List.map_congr_left fun quota _ => override_override overrides quota
  simp only [overrideAll, List.map_map (g := Prod.fst), Function.comp_def, again]

/-- After overrides are applied, each limit of a quota is the last quantity that is listed for it
under the name of the quota, or else what it was before, and nothing else has changed.  One fault
is reported for each quota and each override that is listed for it and is no quantity.  To apply
the overrides again changes nothing and reports the same. -/
theorem overrideAll_exact (quotas : List ResourceQuota) :
    let result := overrideAll overrides quotas
    List.Forall₂ (IsOverridden overrides) quotas result.1 ∧
      (result.2.causes = quotas.flatMap fun quota =>
        ((overrides.listedFor quota).filter (!·.isQuantity)).map fun override =>
          .invalidLimit override.resource ⟨override.limit⟩) ∧
      overrideAll overrides result.1 = result := by
  intro result
  refine ⟨?_, ?_, overrideAll_overrideAll overrides quotas⟩
  · change List.Forall₂ _ quotas ((quotas.map (override overrides)).map (·.1))
    rw [List.map_map, List.forall₂_map_right_iff]
    exact List.forall₂_same.mpr fun quota _ => isOverridden_override overrides quota
  · rw [causes_overrideAll]
    exact List.flatMap_congr fun quota _ => LimitOverride.flatMap_faults (overrides.listedFor quota)

/-- A quota with some limits. -/
def ofLimits (metadata : Metadata) (limits : List (String × String)) : ResourceQuota :=
  ⟨metadata, some { QuotaSpec.empty with hard := some (.ofList limits) }⟩

-- a quota without limits and one that is still to be named have the same overrides
example :
    let named : Metadata := { Metadata.empty with name := some "a" }
    let unnamed : Metadata := { Metadata.empty with generateName := some "a" }
    overrideAll (.ofList [("a", [⟨"cpu", "2"⟩, ⟨"cpu", "3"⟩, ⟨"cpu", "many"⟩])])
        [⟨named, none⟩, ⟨.empty, none⟩, ofLimits unnamed [("pods", "1")]] =
      ([ofLimits named [("cpu", "3")], ⟨.empty, none⟩,
          ofLimits unnamed [("cpu", "3"), ("pods", "1")]],
        ⟨[.invalidLimit "cpu" ⟨"many"⟩, .invalidLimit "cpu" ⟨"many"⟩]⟩) := by
  decide +kernel

end ResourceQuota

end Tenancy
