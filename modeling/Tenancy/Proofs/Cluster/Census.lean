import Tenancy.Proofs.Cluster.History

/-!
# Counting stored objects

How many of the stored objects have a property, and how that number changes when one
object is stored, replaced or removed.
-/

namespace Tenancy.Inventory

universe u

variable {κ : Type u}

/-- How many of the stored objects have a property. -/
def count (has : Lifetime → Bool) (inventory : Inventory κ) : Nat :=
  inventory.entries.countP fun entry => has entry.2

/-- The objects as they are stored now. -/
def currents (inventory : Inventory κ) : List Json :=
  inventory.entries.map fun entry => entry.2.current

variable {has : Lifetime → Bool} {inventory : Inventory κ}

theorem countP_currents (has : Json → Bool) (inventory : Inventory κ) :
    inventory.currents.countP has = inventory.count fun life => has life.current := by
  rw [currents, List.countP_map]
  rfl

theorem count_mono {less : Lifetime → Bool} (implies : ∀ life, less life = true → has life = true) :
    inventory.count less ≤ inventory.count has :=
  List.countP_mono_left fun entry _ => implies entry.2

/-- The objects with a property are those with another one and those without it. -/
theorem count_eq_count_and_add_count_and_not (has other : Lifetime → Bool)
    (inventory : Inventory κ) :
    inventory.count has =
      inventory.count (fun life => has life && other life) +
        inventory.count fun life => has life && !other life := by
  unfold count
  induction inventory.entries with
  | nil => rfl
  | cons entry entries ih =>
      simp only [List.countP_cons, ih]
      cases has entry.2 <;> cases other entry.2 <;> simp <;> omega

theorem count_eq_zero [DecidableEq κ]
    (lacks : ∀ place life, inventory.lookup place = some life → has life = false) :
    inventory.count has = 0 := by
  refine List.countP_eq_zero.mpr fun ⟨place, life⟩ stored => ?_
  rw [lacks place life (AList.mem_lookup_iff.mpr stored)]
  exact Bool.false_ne_true

/-! ## Changes of one object -/

section Change

variable [DecidableEq κ] {place : κ}

/-- Removing an object removes it from the count if it was counted. -/
theorem count_erase_of_lookup_eq_some {life : Lifetime}
    (stored : inventory.lookup place = some life) :
    count has (inventory.erase place) + (has life).toNat = inventory.count has := by
  have inKeys : place ∈ inventory.entries.keys :=
    AList.mem_keys.mp (AList.lookup_isSome.mp (Option.isSome_of_eq_some stored))
  obtain ⟨found, before, after, _, split, erased⟩ := List.exists_of_kerase inKeys
  have isFound : found = life := by
    have member : (⟨place, found⟩ : Sigma fun _ => Lifetime) ∈ inventory.entries :=
      split ▸ List.mem_append_right _ List.mem_cons_self
    exact Option.some.inj ((AList.mem_lookup_iff.mpr member).symm.trans stored)
  subst isFound
  unfold count
  change (List.kerase place inventory.entries).countP _ + _ = _
  rw [erased, split, List.countP_append, List.countP_append, List.countP_cons]
  cases has found
  · simp
  · simp only [if_true, Bool.toNat_true]
    omega

theorem count_erase_le (place : κ) : count has (inventory.erase place) ≤ inventory.count has :=
  List.Sublist.countP_le (List.kerase_sublist place inventory.entries)

theorem count_insert (life : Lifetime) :
    count has (inventory.insert place life) =
      count has (inventory.erase place) + (has life).toNat := by
  unfold count
  rw [AList.entries_insert, List.countP_cons]
  cases has life <;> rfl

/-- A new object is counted if it has the property. -/
theorem count_insert_of_lookup_eq_none (absent : inventory.lookup place = none)
    (life : Lifetime) :
    count has (inventory.insert place life) = inventory.count has + (has life).toNat := by
  have erased : inventory.erase place = inventory := by
    refine AList.ext (List.kerase_of_notMem_keys ?_)
    exact AList.lookup_eq_none.mp absent
  rw [count_insert, erased]

/-- Replacing an object by one that is counted only if the object was does not raise the
count. -/
theorem count_insert_le_of_lookup_eq_some {old new : Lifetime}
    (stored : inventory.lookup place = some old) (implies : has new = true → has old = true) :
    count has (inventory.insert place new) ≤ inventory.count has := by
  rw [count_insert, ← count_erase_of_lookup_eq_some stored]
  cases isNew : has new with
  | false => simp
  | true => rw [implies isNew]

end Change

end Tenancy.Inventory
