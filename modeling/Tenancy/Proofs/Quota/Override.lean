import Tenancy.Proofs.SortedMap
import Tenancy.Quota.Override

/-!
# Overrides by annotation

Resolving and applying overrides treats every annotation on its own: what is reported is,
annotation by annotation, what is wrong with each of them.  So an annotation with nothing
wrong can be taken away without a change to what is reported.
-/

namespace Tenancy

/-! ## What is wrong with one annotation -/

/-- What is wrong with a limit. -/
def LimitOverride.faults (override : LimitOverride) : List OverrideFault :=
  match Quantity.parse override.limit with
  | .ok _ => []
  | .error fault => [.invalidLimit override.resource fault]

namespace OverrideResolver

/-- What is wrong with reading an annotation. -/
def faults (resolver : OverrideResolver) (entry : String × String) : List OverrideFault :=
  match resolver.contribution entry.1 entry.2 with
  | .error fault => [fault]
  | .ok _ => []

/-- The overrides of an annotation for a quota. -/
def overridesFor (resolver : OverrideResolver) (quota : String)
    (entry : String × String) : List LimitOverride :=
  match resolver.contribution entry.1 entry.2 with
  | .ok (some (name, limits)) => if name = quota then limits else []
  | _ => []

/-- An annotation is in order: it can be read, and all limits that it sets are
quantities. -/
structure Accepts (resolver : OverrideResolver) (entry : String × String) : Prop where
  isRead : resolver.faults entry = []
  quantities : ∀ quota, ∀ override ∈ resolver.overridesFor quota entry,
    override.faults = []

end OverrideResolver

/-! ## Resolving -/

namespace SortedMap

variable {α : Type}

theorem getD_get?_append (map : SortedMap (List α)) (key other : String) (more : List α) :
    ((map.append key more).get? other).getD [] =
      (map.get? other).getD [] ++ if key = other then more else [] := by
  rw [append, get?_insert]
  split
  next same => rw [same, Option.getD_some]
  next => rw [List.append_nil]

/-- Lists without an entry can be left out. -/
theorem getD_get?_filter_isEmpty (map : SortedMap (List α)) (key : String) :
    ((map.filter fun _ list => !list.isEmpty).get? key).getD [] = (map.get? key).getD [] := by
  rw [get?_filter]
  cases map.get? key with
  | none => rfl
  | some list => cases list <;> rfl

/-- If no list is empty, the lists say which entries there are. -/
theorem get?_eq_filter_getD {map : SortedMap (List α)} {key : String}
    (notEmpty : map.get? key ≠ some []) :
    map.get? key = (some ((map.get? key).getD [])).filter fun list => !list.isEmpty := by
  cases found : map.get? key with
  | none => rfl
  | some list =>
      cases list with
      | nil => exact absurd found notEmpty
      | cons => rfl

end SortedMap

namespace OverrideResolver

variable (resolver : OverrideResolver)

theorem causes_resolveEntries (annotations : List (String × String)) (overrides : Overrides)
    (report : Report OverrideFault) :
    (resolver.resolveEntries annotations overrides report).2.causes =
      report.causes ++ annotations.flatMap resolver.faults := by
  induction annotations generalizing overrides report with
  | nil => rw [resolveEntries, List.flatMap_nil, List.append_nil]
  | cons entry rest ih =>
      obtain ⟨key, value⟩ := entry
      rw [resolveEntries, List.flatMap_cons, faults]
      rcases resolver.contribution key value with fault | _ | ⟨quota, limits⟩
      · rw [ih, Report.add, List.append_assoc]
      · exact ih overrides report
      · exact ih _ report

theorem getD_get?_resolveEntries (annotations : List (String × String)) (overrides : Overrides)
    (report : Report OverrideFault) (quota : String) :
    ((resolver.resolveEntries annotations overrides report).1.get? quota).getD [] =
      (overrides.get? quota).getD [] ++ annotations.flatMap (resolver.overridesFor quota) := by
  induction annotations generalizing overrides report with
  | nil => rw [resolveEntries, List.flatMap_nil, List.append_nil]
  | cons entry rest ih =>
      obtain ⟨key, value⟩ := entry
      rw [resolveEntries, List.flatMap_cons, overridesFor]
      rcases resolver.contribution key value with fault | _ | ⟨name, limits⟩
      · exact ih overrides _
      · exact ih overrides report
      · dsimp only
        rw [ih, SortedMap.getD_get?_append, List.append_assoc]

/-- What is reported in resolving annotations is what is wrong with each of them. -/
theorem causes_resolve (annotations : SortedMap String) :
    (resolver.resolve annotations).2.causes = annotations.entries.flatMap resolver.faults := by
  rw [resolve]
  exact resolver.causes_resolveEntries annotations.entries .empty .empty

/-- The overrides for a quota are those of each annotation. -/
theorem getD_get?_resolve (annotations : SortedMap String) (quota : String) :
    ((resolver.resolve annotations).1.get? quota).getD [] =
      annotations.entries.flatMap (resolver.overridesFor quota) := by
  rw [resolve]
  dsimp only
  rw [SortedMap.getD_get?_filter_isEmpty, getD_get?_resolveEntries, SortedMap.get?_empty,
    Option.getD_none, List.nil_append]

end OverrideResolver

/-! ## Applying -/

/-- What is reported in applying overrides is what is wrong with each of them, whatever
limits they are applied to. -/
theorem LimitOverride.causes_applyAll (overrides : List LimitOverride)
    (limits : SortedMap String) :
    (applyAll overrides limits).2.causes = overrides.flatMap faults := by
  induction overrides generalizing limits with
  | nil => rfl
  | cons override rest ih =>
      rw [applyAll, List.flatMap_cons, faults]
      cases Quantity.parse override.limit with
      | ok quantity => exact ih _
      | error fault => exact congrArg ([.invalidLimit override.resource fault] ++ ·) (ih limits)

namespace ResourceQuota

theorem causes_override (overrides : Overrides) (quota : ResourceQuota) :
    (override overrides quota).2.causes =
      ((overrides.get? quota.metadata.anyName).getD []).flatMap LimitOverride.faults := by
  rw [override]
  cases overrides.get? quota.metadata.anyName with
  | none => rfl
  | some list => exact LimitOverride.causes_applyAll list _

/-- What is reported in applying overrides to quotas is what is wrong with those for each
quota. -/
theorem causes_overrideAll (overrides : Overrides) (quotas : List ResourceQuota) :
    (overrideAll overrides quotas).2.causes = quotas.flatMap fun quota =>
      ((overrides.get? quota.metadata.anyName).getD []).flatMap LimitOverride.faults := by
  change ((quotas.map (override overrides)).map (·.2)).flatMap Report.causes = _
  rw [List.map_map, List.flatMap_map]
  exact List.flatMap_congr fun quota _ => causes_override overrides quota

end ResourceQuota

/-- What is reported in applying the overrides of annotations to quotas is what is wrong
with those of each annotation for each quota. -/
theorem OverrideResolver.causes_overrideAll_resolve (resolver : OverrideResolver)
    (annotations : SortedMap String) (quotas : List ResourceQuota) :
    (ResourceQuota.overrideAll (resolver.resolve annotations).1 quotas).2.causes =
      quotas.flatMap fun quota => annotations.entries.flatMap fun entry =>
        (resolver.overridesFor quota.metadata.anyName entry).flatMap
          LimitOverride.faults := by
  rw [ResourceQuota.causes_overrideAll]
  refine List.flatMap_congr fun quota _ => ?_
  rw [getD_get?_resolve, List.flatMap_assoc]

/-! ## Annotations that are in order -/

/-- Entries that give nothing can be left out. -/
theorem flatMap_filter_of_eq_nil {α β : Type} {list : List α} {give : α → List β}
    {keep : α → Bool} (nothing : ∀ entry ∈ list, keep entry = false → give entry = []) :
    (list.filter keep).flatMap give = list.flatMap give := by
  induction list with
  | nil => rfl
  | cons entry rest ih =>
      obtain ⟨entryGives, restGive⟩ := List.forall_mem_cons.mp nothing
      rw [List.filter_cons, List.flatMap_cons]
      split
      next => rw [List.flatMap_cons, ih restGive]
      next dropped =>
        rw [ih restGive, entryGives (Bool.eq_false_of_not_eq_true dropped), List.nil_append]

/-- Two reports with the same causes are the same. -/
theorem Report.eq_of_causes_eq {ε : Type} {first second : Report ε}
    (same : first.causes = second.causes) : first = second := by
  cases first
  cases second
  cases same
  rfl

namespace OverrideResolver

variable {resolver : OverrideResolver} {annotations : SortedMap String}

section Filter

variable {keep : String → String → Bool}
  (accepted : ∀ {key value}, annotations.get? key = some value → keep key value = false →
    resolver.Accepts (key, value))
include accepted

/-- Annotations that are in order can be taken away without a change to what is reported in
resolving the others. -/
theorem resolve_filter_report :
    (resolver.resolve (annotations.filter keep)).2 = (resolver.resolve annotations).2 := by
  apply Report.eq_of_causes_eq
  rw [causes_resolve, causes_resolve, SortedMap.filter]
  refine flatMap_filter_of_eq_nil fun entry member dropped => ?_
  exact (accepted (annotations.get?_eq_some_iff_mem.mpr member) dropped).isRead

/-- Nor does that change what is reported in applying the overrides of the others. -/
theorem overrideAll_filter_report (quotas : List ResourceQuota) :
    (ResourceQuota.overrideAll (resolver.resolve (annotations.filter keep)).1 quotas).2 =
      (ResourceQuota.overrideAll (resolver.resolve annotations).1 quotas).2 := by
  apply Report.eq_of_causes_eq
  rw [causes_overrideAll_resolve, causes_overrideAll_resolve, SortedMap.filter]
  refine List.flatMap_congr fun quota _ =>
    flatMap_filter_of_eq_nil fun entry member dropped => ?_
  have inOrder := accepted (annotations.get?_eq_some_iff_mem.mpr member) dropped
  exact List.flatMap_eq_nil_iff.mpr (inOrder.quantities quota.metadata.anyName)

end Filter

section All

variable (accepted : ∀ entry ∈ annotations.entries, resolver.Accepts entry)
include accepted

/-- Of annotations that are all in order nothing is reported. -/
theorem resolve_report_eq_empty : (resolver.resolve annotations).2 = .empty := by
  apply Report.eq_of_causes_eq
  rw [causes_resolve]
  exact List.flatMap_eq_nil_iff.mpr fun entry member => (accepted entry member).isRead

theorem overrideAll_report_eq_empty (quotas : List ResourceQuota) :
    (ResourceQuota.overrideAll (resolver.resolve annotations).1 quotas).2 = .empty := by
  apply Report.eq_of_causes_eq
  rw [causes_overrideAll_resolve]
  refine List.flatMap_eq_nil_iff.mpr fun quota _ =>
    List.flatMap_eq_nil_iff.mpr fun entry member => ?_
  exact List.flatMap_eq_nil_iff.mpr
    ((accepted entry member).quantities quota.metadata.anyName)

end All

end OverrideResolver

end Tenancy
