import Mathlib.Data.List.Induction
import Mathlib.Data.List.Sort
import Tenancy.Change

/-!
# Look-ups determine sorted maps

Entries and look-ups of a sorted map are two views of the same content, so two
maps with equal look-ups are equal.  From this follow the look-ups of the maps that
operations build, and that the changed keys of two maps are exactly the keys at
which their look-ups differ.
-/

namespace Tenancy

universe u

/-! ## Listings -/

/-- A list has exactly what satisfies a condition, by ascending key. -/
structure Enumerates {α : Type u} (key : α → String) (list : List α) (holds : α → Prop) :
    Prop where
  ascending : list.Pairwise fun first second => key first < key second
  mem_iff : ∀ {item}, item ∈ list ↔ holds item

namespace Enumerates

variable {α : Type u} {key : α → String} {list : List α} {holds : α → Prop}

theorem eq_nil_iff (listing : Enumerates key list holds) : list = [] ↔ ∀ item, ¬holds item := by
  simp only [List.eq_nil_iff_forall_not_mem, listing.mem_iff]

theorem nodup (listing : Enumerates key list holds) : list.Nodup := by
  refine listing.ascending.imp fun {low high} less equal => ?_
  subst equal
  exact String.lt_irrefl (key low) less

/-- There is one listing of what satisfies a condition. -/
theorem unique {other : List α} (listing : Enumerates key list holds)
    (otherListing : Enumerates key other holds) : list = other := by
  have permutation : list.Perm other := by
    rw [List.perm_ext_iff_of_nodup listing.nodup otherListing.nodup]
    intro item
    rw [listing.mem_iff, otherListing.mem_iff]
  apply permutation.eq_of_pairwise _ listing.ascending otherListing.ascending
  intro low high _ _ less more
  exact absurd (String.lt_trans less more) (String.lt_irrefl _)

theorem filter (listing : Enumerates key list holds) {keep : α → Bool} {kept : α → Prop}
    (keep_iff : ∀ item, keep item = true ↔ kept item) :
    Enumerates key (list.filter keep) fun item => holds item ∧ kept item where
  ascending := listing.ascending.filter keep
  mem_iff := by
    intro item
    rw [List.mem_filter, listing.mem_iff, keep_iff]

end Enumerates

/-! ## Entries -/

namespace SortedMap

variable {α : Type u}

/-- The entries are the successful look-ups. -/
theorem get?_eq_some_iff_mem (map : SortedMap α) {key : String} {value : α} :
    map.get? key = some value ↔ (key, value) ∈ map.entries := by
  obtain ⟨entries, ascending⟩ := map
  change lookup key entries = some value ↔ (key, value) ∈ entries
  induction entries with
  | nil => simp [lookup]
  | cons head rest ih =>
      obtain ⟨name, stored⟩ := head
      obtain ⟨below, tail⟩ := List.pairwise_cons.mp ascending
      by_cases same : name = key
      · subst same
        -- the head is the only entry with its key, since the rest lies above it
        have onlyHead : (name, value) ∉ rest := fun member =>
          String.lt_irrefl name (below _ member)
        simp [lookup, onlyHead, eq_comm]
      · simp [lookup, same, ih tail, Ne.symm same]

/-- The last entry with a key is the one that a look-up gives. -/
theorem find?_reverse_entries (map : SortedMap α) (key : String) :
    (map.entries.reverse.find? (·.1 == key)).map (·.2) = map.get? key := by
  cases found : map.entries.reverse.find? (·.1 == key) with
  | none =>
      rw [Option.map_none, eq_comm, Option.eq_none_iff_forall_ne_some]
      intro value stored
      have listed := List.mem_reverse.mpr ((get?_eq_some_iff_mem map).mp stored)
      exact List.find?_eq_none.mp found _ listed (beq_self_eq_true key)
  | some entry =>
      have isKey : entry.1 = key := by simpa using List.find?_some found
      have listed := List.mem_reverse.mp (List.mem_of_find?_eq_some found)
      rw [Option.map_some, eq_comm, ← isKey, get?_eq_some_iff_mem]
      exact listed

theorem mem_keys_iff (map : SortedMap α) {key : String} :
    key ∈ map.keys ↔ map.get? key ≠ none := by
  rw [Option.ne_none_iff_exists']
  simp only [get?_eq_some_iff_mem, keys, List.mem_map, Prod.exists]
  constructor
  · rintro ⟨_, value, member, rfl⟩
    exact ⟨value, member⟩
  · rintro ⟨value, member⟩
    exact ⟨key, value, member, rfl⟩

theorem contains_eq_false_iff (map : SortedMap α) {key : String} :
    map.contains key = false ↔ map.get? key = none := by
  rw [contains, Option.isSome_eq_false_iff, Option.isNone_iff_eq_none]

/-- The entries list the successful look-ups. -/
theorem enumerates_entries (map : SortedMap α) :
    Enumerates Prod.fst map.entries fun entry => map.get? entry.1 = some entry.2 :=
  ⟨map.ascending, map.get?_eq_some_iff_mem.symm⟩

/-- Maps with equal look-ups are equal. -/
theorem ext_get? {first second : SortedMap α}
    (same : ∀ key, first.get? key = second.get? key) : first = second := by
  have equal : first.entries = second.entries := by
    apply first.enumerates_entries.unique
    simpa only [same] using second.enumerates_entries
  cases first
  cases second
  cases equal
  rfl

/-- The values are the look-ups of the keys. -/
theorem values_eq (map : SortedMap α) (default : α) :
    map.values = map.keys.map fun key => (map.get? key).getD default := by
  rw [values, keys, List.map_map]
  apply List.map_congr_left
  intro entry listed
  rw [Function.comp_apply, (get?_eq_some_iff_mem map).mpr listed, Option.getD_some]

theorem pairwise_keys (map : SortedMap α) : map.keys.Pairwise (· < ·) :=
  List.pairwise_map.mpr map.ascending

/-! ## Look-ups in the maps that operations build -/

theorem get?_insert (map : SortedMap α) (key other : String) (value : α) :
    (map.insert key value).get? other = if key = other then some value else map.get? other := by
  by_cases same : key = other
  · subst same
    simp
  · rw [if_neg same, get?_insert_of_ne map same]

theorem get?_filter (map : SortedMap α) (keep : String → α → Bool) (key : String) :
    (map.filter keep).get? key = (map.get? key).filter (keep key) := by
  ext value
  rw [get?_eq_some_iff_mem, filter, List.mem_filter, ← get?_eq_some_iff_mem,
    Option.filter_eq_some_iff]

@[simp]
theorem ofList_append_singleton (list : List (String × α)) (entry : String × α) :
    ofList (list ++ [entry]) = (ofList list).insert entry.1 entry.2 := by
  simp [ofList, List.foldl_append]

/-- Of the entries with one key in a list, the last counts. -/
theorem get?_ofList (list : List (String × α)) (key : String) :
    (ofList list).get? key = (list.reverse.find? (·.1 == key)).map (·.2) := by
  induction list using List.reverseRec with
  | nil => rfl
  | append_singleton list entry ih =>
      rw [ofList_append_singleton, get?_insert, List.reverse_append]
      by_cases same : entry.1 = key <;> simp [same, ih]

theorem get?_ofList_ne_none_iff (list : List (String × α)) {key : String} :
    (ofList list).get? key ≠ none ↔ ∃ entry ∈ list, entry.1 = key := by
  simp [get?_ofList]

/-! ## Changes -/

section Agree

/-- An entry is new: the new map has it, and the old one does not. -/
def IsNew (old new : SortedMap α) (entry : String × α) : Prop :=
  new.get? entry.1 = some entry.2 ∧ old.get? entry.1 ≠ some entry.2

/-- Two changes of a map agree, but for entries that neither of them changes. -/
def AgreeOnChanges (old new otherOld otherNew : SortedMap α) : Prop :=
  ∀ key, (old.get? key = new.get? key ∧ otherOld.get? key = otherNew.get? key) ∨
    (old.get? key = otherOld.get? key ∧ new.get? key = otherNew.get? key)

variable {old new otherOld otherNew : SortedMap α}
  (agree : AgreeOnChanges old new otherOld otherNew)
include agree

theorem AgreeOnChanges.symm : AgreeOnChanges otherOld otherNew old new := by
  intro key
  rcases agree key with ⟨kept, otherKept⟩ | ⟨sameOld, sameNew⟩
  · exact .inl ⟨otherKept, kept⟩
  · exact .inr ⟨sameOld.symm, sameNew.symm⟩

theorem AgreeOnChanges.differs_iff (key : String) :
    old.get? key ≠ new.get? key ↔ otherOld.get? key ≠ otherNew.get? key := by
  rcases agree key with ⟨kept, otherKept⟩ | ⟨sameOld, sameNew⟩
  · rw [kept, otherKept, ne_self_iff_false, ne_self_iff_false]
  · rw [sameOld, sameNew]

theorem AgreeOnChanges.isNew_iff (entry : String × α) :
    IsNew old new entry ↔ IsNew otherOld otherNew entry := by
  rw [IsNew, IsNew]
  rcases agree entry.1 with ⟨kept, otherKept⟩ | ⟨sameOld, sameNew⟩
  · rw [kept, otherKept, ne_eq, ne_eq, and_not_self_iff, and_not_self_iff]
  · rw [sameOld, sameNew]

end Agree

section Change

variable {α : Type} [DecidableEq α]

/-- The changed keys of two maps are those at which their look-ups differ. -/
theorem mem_changedKeys_iff (old new : SortedMap α) {key : String} :
    key ∈ changedKeys old new ↔ old.get? key ≠ new.get? key := by
  rw [changedKeys, mem_keys_iff, get?_ofList_ne_none_iff]
  constructor
  · rintro ⟨⟨name, value⟩, member, rfl⟩
    rcases List.mem_append.mp member with gone | come
    · obtain ⟨stored, differs⟩ := List.mem_filter.mp gone
      rw [(get?_eq_some_iff_mem old).mpr stored]
      exact fun equal => of_decide_eq_true differs equal.symm
    · obtain ⟨stored, absent⟩ := List.mem_filter.mp come
      rw [(get?_eq_some_iff_mem new).mpr stored,
        (contains_eq_false_iff old).mp (by simpa using absent)]
      simp
  · intro differs
    cases before : old.get? key with
    | some value =>
        refine ⟨(key, value), List.mem_append_left _ (List.mem_filter.mpr ?_), rfl⟩
        refine ⟨(get?_eq_some_iff_mem old).mp before, decide_eq_true fun after => ?_⟩
        exact differs (before.trans after.symm)
    | none =>
        cases after : new.get? key with
        | none => exact absurd (before.trans after.symm) differs
        | some value =>
            refine ⟨(key, value), List.mem_append_right _ (List.mem_filter.mpr ?_), rfl⟩
            exact ⟨(get?_eq_some_iff_mem new).mp after,
              by simp [(contains_eq_false_iff old).mpr before]⟩

/-- If no changed key passes a test, the look-ups of a key that passes it agree. -/
theorem get?_eq_of_filter_changedKeys_eq_nil {old new : SortedMap α} {test : String → Bool}
    (noChange : (changedKeys old new).filter test = []) {key : String}
    (isTested : test key = true) : new.get? key = old.get? key := by
  by_contra differs
  have changed : key ∈ changedKeys old new := (mem_changedKeys_iff old new).mpr (Ne.symm differs)
  exact List.filter_eq_nil_iff.mp noChange key changed isTested

/-- The changed entries are those that are new. -/
theorem mem_changedEntries_iff (old new : SortedMap α) {entry : String × α} :
    entry ∈ (changedEntries old new).entries ↔ IsNew old new entry := by
  rw [← get?_eq_some_iff_mem, changedEntries, get?_filter, Option.filter_eq_some_iff,
    decide_eq_true_iff, IsNew]

theorem enumerates_changedKeys (old new : SortedMap α) :
    Enumerates id (changedKeys old new) fun key => old.get? key ≠ new.get? key :=
  ⟨pairwise_keys _, mem_changedKeys_iff old new⟩

theorem enumerates_changedEntries (old new : SortedMap α) :
    Enumerates Prod.fst (changedEntries old new).entries (IsNew old new) :=
  ⟨(changedEntries old new).ascending, mem_changedEntries_iff old new⟩

end Change

end SortedMap

end Tenancy
