import Mathlib.Data.List.AList
import Mathlib.Logic.Relation
import Tenancy.Cluster.Lookup
import Tenancy.Request

/-!
# Histories of stored objects

A cluster stores objects of a kind at places, each with all versions that it has had
and with the caller who created it.  Admitted requests create, update and delete
them, one after the other.  What holds of every object when it is created, and of an
object that is updated if it held before, holds of all objects that a history
reaches.
-/

namespace Tenancy

/-- An object over its lifetime: who created it, what it is, and what it was before,
the newest version first. -/
structure Lifetime where
  creator : Caller
  current : Json
  earlier : List Json

namespace Lifetime

/-- The lifetime of an object that is created. -/
def start (creator : Caller) (object : Json) : Lifetime := ⟨creator, object, []⟩

/-- The lifetime of an object that becomes another version. -/
def become (life : Lifetime) (object : Json) : Lifetime :=
  ⟨life.creator, object, life.current :: life.earlier⟩

/-- All versions of an object, the newest first. -/
def versions (life : Lifetime) : List Json := life.current :: life.earlier

@[simp]
theorem versions_start (creator : Caller) (object : Json) :
    (start creator object).versions = [object] :=
  rfl

@[simp]
theorem versions_become (life : Lifetime) (object : Json) :
    (life.become object).versions = object :: life.versions :=
  rfl

theorem current_mem_versions (life : Lifetime) : life.current ∈ life.versions :=
  List.mem_cons_self

end Lifetime

universe u

/-- The objects of a kind by the places where they are stored. -/
abbrev Inventory (κ : Type u) := AList fun _ : κ => Lifetime

/-- Which requests are admitted, and as which ones they go on, given what is stored
and the cluster that answers questions at the time. -/
abbrev Gate (κ : Type u) := Inventory κ → Cluster → Request → Request → Prop

variable {κ : Type u} [DecidableEq κ]

/-- One admitted request is carried out.  Only an object that is not stored can be
created, and a request to update an object carries what is stored. -/
inductive Commit (place : Request → κ) (admits : Gate κ) :
    Inventory κ → Inventory κ → Prop
  | create {inventory : Inventory κ} {admitted : Request} {object : Json}
      (cluster : Cluster) (request : Request) :
      request.operation = .create → inventory.lookup (place request) = none →
      admits inventory cluster request admitted → admitted.object = some object →
      Commit place admits inventory
        (inventory.insert (place request) (.start request.caller object))
  | update {inventory : Inventory κ} {admitted : Request} {object : Json} {life : Lifetime}
      (cluster : Cluster) (request : Request) :
      request.operation = .update → inventory.lookup (place request) = some life →
      request.oldObject = some life.current →
      admits inventory cluster request admitted → admitted.object = some object →
      Commit place admits inventory (inventory.insert (place request) (life.become object))
  | delete {inventory : Inventory κ} {admitted : Request} (cluster : Cluster)
      (request : Request) :
      request.operation = .delete → admits inventory cluster request admitted →
      Commit place admits inventory (inventory.erase (place request))

/-- What finitely many admitted requests lead to. -/
abbrev Reaches (place : Request → κ) (admits : Gate κ) :
    Inventory κ → Inventory κ → Prop :=
  Relation.ReflTransGen (Commit place admits)

section Invariant

variable {place : Request → κ} {admits : Gate κ} {first last : Inventory κ}
  (holds : Lifetime → Prop)

theorem forall_lifetimes_insert {inventory : Inventory κ} {key : κ}
    {life : Lifetime} (before : ∀ other old, inventory.lookup other = some old → holds old)
    (new : holds life) :
    ∀ other found, (inventory.insert key life).lookup other = some found → holds found := by
  intro other found isFound
  by_cases same : other = key
  · subst same
    rw [AList.lookup_insert] at isFound
    cases isFound
    exact new
  · rw [AList.lookup_insert_ne same] at isFound
    exact before other found isFound

/-- One request keeps what holds of created objects and is kept by updates. -/
theorem Commit.forall_lifetimes
    (created : ∀ {inventory cluster request admitted object},
      request.operation = .create → admits inventory cluster request admitted →
      admitted.object = some object → holds (.start request.caller object))
    (updated : ∀ {inventory cluster request admitted object} {life : Lifetime},
      request.operation = .update → request.oldObject = some life.current →
      admits inventory cluster request admitted → admitted.object = some object →
      holds life → holds (life.become object))
    (step : Commit place admits first last)
    (before : ∀ key life, first.lookup key = some life → holds life) :
    ∀ key life, last.lookup key = some life → holds life := by
  cases step with
  | create _ _ operation _ admitted carried =>
      exact forall_lifetimes_insert holds before (created operation admitted carried)
  | update _ _ operation stored carriesStored admitted carried =>
      exact forall_lifetimes_insert holds before
        (updated operation carriesStored admitted carried (before _ _ stored))
  | delete _ request =>
      intro key life found
      by_cases same : key = place request
      · subst same
        rw [AList.lookup_erase] at found
        cases found
      · rw [AList.lookup_erase_ne same] at found
        exact before key life found

/-- What holds of created objects and is kept by updates holds throughout a
history. -/
theorem Reaches.forall_lifetimes
    (created : ∀ {inventory cluster request admitted object},
      request.operation = .create → admits inventory cluster request admitted →
      admitted.object = some object → holds (.start request.caller object))
    (updated : ∀ {inventory cluster request admitted object} {life : Lifetime},
      request.operation = .update → request.oldObject = some life.current →
      admits inventory cluster request admitted → admitted.object = some object →
      holds life → holds (life.become object))
    (run : Reaches place admits first last)
    (before : ∀ key life, first.lookup key = some life → holds life) :
    ∀ key life, last.lookup key = some life → holds life := by
  induction run with
  | refl => exact before
  | tail _ step ih => exact step.forall_lifetimes holds created updated ih

end Invariant

end Tenancy
