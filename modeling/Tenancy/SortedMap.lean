/-!
# Maps with text keys in ascending order

Labels, annotations, limits and rules are finite maps whose keys are texts.  A
map is the list of its entries in strictly ascending key order, so that two maps
with the same look-ups are equal and every enumeration of a map is determined by
its content.
-/

namespace Tenancy

universe u v

/-- A finite map from texts, listed by strictly ascending key. -/
structure SortedMap (α : Type u) where
  entries : List (String × α)
  ascending : entries.Pairwise fun first second => first.1 < second.1
  deriving Repr, DecidableEq

namespace SortedMap

variable {α : Type u} {β : Type v}

/-- The map without entries. -/
def empty : SortedMap α := ⟨[], List.Pairwise.nil⟩

instance : Inhabited (SortedMap α) := ⟨empty⟩

instance : EmptyCollection (SortedMap α) := ⟨empty⟩

/-- Look a key up in a list of entries; the first entry with the key counts. -/
def lookup (key : String) : List (String × α) → Option α
  | [] => none
  | (name, value) :: rest => if name = key then some value else lookup key rest

/-- The value stored at a key. -/
def get? (map : SortedMap α) (key : String) : Option α := lookup key map.entries

/-- Whether a key is present. -/
def contains (map : SortedMap α) (key : String) : Bool := (map.get? key).isSome

/-- The keys, ascending. -/
def keys (map : SortedMap α) : List String := map.entries.map (·.1)

/-- The values in the order of their keys. -/
def values (map : SortedMap α) : List α := map.entries.map (·.2)

/-- Whether the map has no entry. -/
def isEmpty (map : SortedMap α) : Bool := map.entries.isEmpty

/-- Put an entry in its place, over an entry with the same key if there is one. -/
def place (key : String) (value : α) : List (String × α) → List (String × α)
  | [] => [(key, value)]
  | (name, old) :: rest =>
      if key < name then (key, value) :: (name, old) :: rest
      else if key = name then (key, value) :: rest
      else (name, old) :: place key value rest

/-- Every entry after placing one is that entry or was there before. -/
theorem mem_place {key : String} {value : α} {entry : String × α}
    {list : List (String × α)} (member : entry ∈ place key value list) :
    entry = (key, value) ∨ entry ∈ list := by
  induction list with
  | nil => exact .inl (by simpa [place] using member)
  | cons head rest ih =>
      obtain ⟨name, old⟩ := head
      rw [place] at member
      split at member
      · simpa using member
      · split at member
        · rcases List.mem_cons.mp member with same | inRest
          · exact .inl same
          · exact .inr (List.mem_cons_of_mem _ inRest)
        · rcases List.mem_cons.mp member with same | inRest
          · exact .inr (same ▸ List.mem_cons_self)
          · rcases ih inRest with same | old
            · exact .inl same
            · exact .inr (List.mem_cons_of_mem _ old)

/-- Placing an entry keeps the keys strictly ascending. -/
theorem pairwise_place (key : String) (value : α) {list : List (String × α)}
    (ascending : list.Pairwise fun first second => first.1 < second.1) :
    (place key value list).Pairwise fun first second => first.1 < second.1 := by
  induction list with
  | nil => simp [place]
  | cons head rest ih =>
      obtain ⟨name, old⟩ := head
      obtain ⟨below, tail⟩ := List.pairwise_cons.mp ascending
      rw [place]
      split
      next before =>
        refine List.pairwise_cons.mpr ⟨fun entry member => ?_, ascending⟩
        rcases List.mem_cons.mp member with same | inRest
        · exact same ▸ before
        · exact String.lt_trans before (below entry inRest)
      next notBefore =>
        split
        next same => exact List.pairwise_cons.mpr ⟨same ▸ below, tail⟩
        next different =>
          refine List.pairwise_cons.mpr ⟨fun entry member => ?_, ih tail⟩
          rcases mem_place member with same | inRest
          · subst same
            rcases Std.lt_trichotomy name key with after | same | before
            · exact after
            · exact absurd same.symm different
            · exact absurd before notBefore
          · exact below entry inRest

/-- Store a value at a key. -/
def insert (map : SortedMap α) (key : String) (value : α) : SortedMap α :=
  ⟨place key value map.entries, pairwise_place key value map.ascending⟩

/-- The map of a list of entries; of entries with one key the last counts. -/
def ofList (list : List (String × α)) : SortedMap α :=
  list.foldl (fun map entry => map.insert entry.1 entry.2) empty

/-- The entries that satisfy a test. -/
def filter (keep : String → α → Bool) (map : SortedMap α) : SortedMap α :=
  ⟨map.entries.filter fun entry => keep entry.1 entry.2,
    map.ascending.sublist List.filter_sublist⟩

/-- Add to the list stored at a key, which is empty at first. -/
def append (map : SortedMap (List α)) (key : String) (more : List α) : SortedMap (List α) :=
  map.insert key ((map.get? key).getD [] ++ more)

/-! ## Look-ups -/

@[simp]
theorem get?_empty (key : String) : (empty : SortedMap α).get? key = none := rfl

theorem lookup_place_self (key : String) (value : α) (list : List (String × α)) :
    lookup key (place key value list) = some value := by
  induction list with
  | nil => simp [place, lookup]
  | cons head rest ih =>
      obtain ⟨name, old⟩ := head
      rw [place]
      split
      · simp [lookup]
      · split
        · simp [lookup]
        next different => simp [lookup, Ne.symm different, ih]

theorem lookup_place_of_ne {key other : String} (different : key ≠ other) (value : α)
    (list : List (String × α)) :
    lookup other (place key value list) = lookup other list := by
  induction list with
  | nil => simp [place, lookup, different]
  | cons head rest ih =>
      obtain ⟨name, old⟩ := head
      rw [place]
      split
      · simp [lookup, different]
      · split
        next same => subst same; simp [lookup, different]
        · simp only [lookup, ih]

@[simp]
theorem get?_insert_self (map : SortedMap α) (key : String) (value : α) :
    (map.insert key value).get? key = some value :=
  lookup_place_self key value map.entries

theorem get?_insert_of_ne (map : SortedMap α) {key other : String} (different : key ≠ other)
    (value : α) : (map.insert key value).get? other = map.get? other :=
  lookup_place_of_ne different value map.entries

end SortedMap

end Tenancy
