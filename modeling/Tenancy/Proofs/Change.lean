import Tenancy.Proofs.SortedMap

/-!
# What changes between two maps

The changed keys are all that tells two maps apart: copying the look-ups of the new map at them
makes it of the old one, and which keys they are does not depend on the direction of the change.
Globs forbid a change exactly if one of its keys matches none of them, and then all such keys are
reported together.
-/

namespace Tenancy

universe u

namespace SortedMap

/-! ## Copying look-ups -/

variable {α : Type u}

/-- Remove a key. -/
def erase (map : SortedMap α) (key : String) : SortedMap α := map.filter fun name _ => name ≠ key

/-- Give a key the value that it has in another map, and remove it if it has none there. -/
def copyKey (source map : SortedMap α) (key : String) : SortedMap α :=
  match source.get? key with
  | some value => map.insert key value
  | none => map.erase key

/-- Give some keys what they have in another map. -/
def copyKeys (source map : SortedMap α) (keys : List String) : SortedMap α :=
  keys.foldl source.copyKey map

theorem get?_erase (map : SortedMap α) (key other : String) :
    (map.erase key).get? other = if key = other then none else map.get? other := by
  rw [erase, get?_filter]
  by_cases same : key = other
  · subst same
    simp
  · cases map.get? other <;> simp [same, Ne.symm same]

theorem get?_copyKey (source map : SortedMap α) (key other : String) :
    (source.copyKey map key).get? other =
      if key = other then source.get? other else map.get? other := by
  unfold copyKey
  split
  next value stored =>
    rw [get?_insert]
    split
    next same => rw [← same, stored]
    next => rfl
  next absent =>
    rw [get?_erase]
    split
    next same => rw [← same, absent]
    next => rfl

theorem get?_copyKeys (source map : SortedMap α) (keys : List String) (key : String) :
    (source.copyKeys map keys).get? key =
      if key ∈ keys then source.get? key else map.get? key := by
  induction keys generalizing map with
  | nil => simp [copyKeys]
  | cons first rest ih =>
      have step : source.copyKeys map (first :: rest) =
          source.copyKeys (source.copyKey map first) rest := rfl
      rw [step, ih, get?_copyKey]
      by_cases inRest : key ∈ rest
      · simp [inRest]
      · simp [inRest, eq_comm]

/-! ## Changed keys -/

section Changed

variable {α : Type} [DecidableEq α] (old new : SortedMap α)

/-- The same keys change in both directions. -/
theorem changedKeys_comm : changedKeys new old = changedKeys old new := by
  apply (enumerates_changedKeys new old).unique
  simpa only [ne_comm] using enumerates_changedKeys old new

/-- The old map becomes the new one at the changed keys. -/
theorem copyKeys_changedKeys : new.copyKeys old (changedKeys old new) = new := by
  apply ext_get?
  intro key
  rw [get?_copyKeys]
  split
  next => rfl
  next unchanged =>
    rw [mem_changedKeys_iff, not_not] at unchanged
    exact unchanged

end Changed

end SortedMap

/-! ## Keys that may not change -/

/-- What is wrong with the keys of a change: nothing if globs match all that changed, and one
fault with all the others if not. -/
inductive Globs.Forbids (globs : Globs) (old new : SortedMap String) :
    Option ForbiddenChange → Prop
  | nothing : (∀ key, old.get? key ≠ new.get? key → globs.isMatch key = true) →
      Forbids globs old new none
  | keys {keys : List String} : keys ≠ [] →
      Enumerates id keys (fun key => old.get? key ≠ new.get? key ∧ globs.isMatch key = false) →
      Forbids globs old new (some ⟨keys, globs.patterns, old, new⟩)

section Forbids

variable {globs : Globs} {old new : SortedMap String}

theorem Globs.forbids_forbiddenChange? :
    globs.Forbids old new (globs.forbiddenChange? old new) := by
  have unmatched_iff (key : String) : (!globs.isMatch key) = true ↔ globs.isMatch key = false := by
    rw [Bool.not_eq_true']
  have listing := (SortedMap.enumerates_changedKeys old new).filter unmatched_iff
  rw [forbiddenChange?]
  split
  next isEmpty =>
    apply Forbids.nothing
    intro key differs
    rw [List.isEmpty_iff, listing.eq_nil_iff] at isEmpty
    exact Bool.of_not_eq_false fun unmatched => isEmpty key ⟨differs, unmatched⟩
  next notEmpty =>
    rw [List.isEmpty_iff] at notEmpty
    exact Forbids.keys notEmpty listing

theorem Globs.Forbids.eq_none_iff {change : Option ForbiddenChange}
    (forbids : globs.Forbids old new change) :
    change = none ↔ ∀ key, old.get? key ≠ new.get? key → globs.isMatch key = true := by
  cases forbids with
  | nothing allowed => exact iff_of_true rfl allowed
  | keys notEmpty listing =>
      apply iff_of_false (Option.some_ne_none _)
      intro allowed
      apply notEmpty
      rw [listing.eq_nil_iff]
      rintro key ⟨differs, unmatched⟩
      rw [allowed key differs] at unmatched
      cases unmatched

end Forbids

/-- The changed keys of two maps are those at which their look-ups differ, by ascending key, in
either direction, and copying the new look-ups at them makes the new map of the old one.  A change
is forbidden exactly if some changed key matches no glob, and all these keys are reported. -/
theorem SortedMap.changedKeys_exact (old new : SortedMap String) (globs : Globs) :
    Enumerates id (changedKeys old new) (fun key => old.get? key ≠ new.get? key) ∧
      changedKeys new old = changedKeys old new ∧
      new.copyKeys old (changedKeys old new) = new ∧
      (globs.forbiddenChange? old new = none ↔
        ∀ key ∈ changedKeys old new, globs.isMatch key = true) ∧
      globs.Forbids old new (globs.forbiddenChange? old new) := by
  have forbids := @Globs.forbids_forbiddenChange? globs old new
  refine ⟨enumerates_changedKeys old new, changedKeys_comm old new, copyKeys_changedKeys old new,
    ?_, forbids⟩
  simpa only [mem_changedKeys_iff] using forbids.eq_none_iff

end Tenancy
