import Tenancy.Cluster.Lookup
import Tenancy.Proofs.Json.Members

/-!
# What look-ups answer

The result of a look-up that goes on with the answer of another is determined by the
results of both; which questions are put does not matter to it.
-/

namespace Tenancy.Lookup

universe u

section Result

variable {α β : Type u} {cluster : Cluster}

@[simp]
theorem result_pure (value : α) (cluster : Cluster) :
    ((Pure.pure value : Lookup α) cluster).result = .ok value :=
  rfl

@[simp]
theorem result_ofExcept (result : Except Failure α) (cluster : Cluster) :
    (ofExcept result cluster).result = result :=
  rfl

/-- A look-up that goes on with another answers exactly when both do. -/
theorem result_bind_eq_ok_iff {first : Lookup α} {next : α → Lookup β} {value : β} :
    ((first >>= next) cluster).result = .ok value ↔
      ∃ middle, (first cluster).result = .ok middle ∧
        (next middle cluster).result = .ok value := by
  change (Lookup.bind first next cluster).result = .ok value ↔ _
  rw [Lookup.bind]
  cases (first cluster).result with
  | error failure => simp
  | ok middle => simp

end Result

/-- The answer to a single question is that of the cluster. -/
theorem result_ask_eq_ok_iff {α : Type u} {call : Call}
    {answer : Cluster → Except FetchFailure α} {cluster : Cluster} {value : α} :
    (ask call answer cluster).result = .ok value ↔ answer cluster = .ok value := by
  cases found : answer cluster <;> simp [ask, Except.mapError, found]

/-- Reading every entry of a list gives a list of the same entries read. -/
theorem mapM_eq_ok_iff {ε α β : Type} {read : α → Except ε β} {list : List α}
    {results : List β} : list.mapM read = .ok results ↔ list.map read = results.map .ok := by
  induction list generalizing results with
  | nil => cases results <;> simp [Pure.pure, Except.pure]
  | cons head rest ih =>
      rw [List.mapM_cons, List.map_cons]
      cases headRead : read head with
      | error failure => cases results <;> simp [Bind.bind, Except.bind]
      | ok value =>
          cases results with
          | nil => cases rest.mapM read <;> simp [Bind.bind, Except.bind, Pure.pure, Except.pure]
          | cons first others =>
              rw [List.map_cons, List.cons.injEq, ← ih]
              cases rest.mapM read <;>
                simp [Bind.bind, Except.bind, Pure.pure, Except.pure]

/-- What is read from a list is read from one of its entries. -/
theorem mem_iff_of_map_eq {α β : Type} {read : α → Option β} {list : List α} {results : List β}
    (isRead : list.map read = results.map some) {result : β} :
    result ∈ results ↔ ∃ entry ∈ list, read entry = some result := by
  rw [← List.mem_map, isRead]
  simp

section Typed

variable {α : Type} [Served α] {cluster : Cluster}

theorem decode_eq_ok_iff {key : String} {json : Json} {object : α} :
    decode α key json = .ok object ↔ Served.ofJson? json = some object := by
  rw [decode]
  cases Served.ofJson? (α := α) json <;> simp

/-- An object that is looked up is the stored value, read. -/
theorem result_get?_eq_ok_iff {namespaceName : Option String} {name : String}
    {found : Option α} :
    (Lookup.get? α namespaceName name cluster).result = .ok found ↔
      ∃ stored, cluster.get (Served.resource α) namespaceName name = .ok stored ∧
        stored.map Served.ofJson? = found.map some := by
  rw [Lookup.get?, result_bind_eq_ok_iff]
  refine exists_congr fun stored => ?_
  rw [getRaw, result_ask_eq_ok_iff]
  refine and_congr_right fun _ => ?_
  cases stored with
  | none => cases found <;> simp
  | some json =>
      rw [result_ofExcept]
      cases decoded : decode α (objectKey namespaceName name) json with
      | error failure =>
          have unread : Served.ofJson? (α := α) json = none := by
            rw [Option.eq_none_iff_forall_ne_some]
            intro object isRead
            rw [decode_eq_ok_iff.mpr isRead] at decoded
            cases decoded
          cases found <;> simp [Except.map, unread]
      | ok object =>
          have isRead := decode_eq_ok_iff.mp decoded
          cases found <;> simp [Except.map, isRead]

/-- An object that has to exist is the stored value, read. -/
theorem result_require_eq_ok_iff {namespaceName : Option String} {name : String} {object : α} :
    (Lookup.require α namespaceName name cluster).result = .ok object ↔
      ∃ json, cluster.get (Served.resource α) namespaceName name = .ok (some json) ∧
        Served.ofJson? json = some object := by
  rw [Lookup.require, result_bind_eq_ok_iff]
  constructor
  · rintro ⟨found, result, isObject⟩
    obtain ⟨stored, answered, isRead⟩ := result_get?_eq_ok_iff.mp result
    cases found with
    | none => cases isObject
    | some other =>
        obtain rfl : other = object := Except.ok.inj isObject
        obtain ⟨json, rfl, decoded⟩ := Option.map_eq_some_iff.mp isRead
        exact ⟨json, answered, decoded⟩
  · rintro ⟨json, answered, decoded⟩
    exact ⟨some object, result_get?_eq_ok_iff.mpr ⟨_, answered, congrArg some decoded⟩, rfl⟩

/-- Objects that are listed are the stored values, read. -/
theorem result_list_eq_ok_iff {namespaceName selector : Option String} {objects : List α} :
    (Lookup.list α namespaceName selector cluster).result = .ok objects ↔
      ∃ values, cluster.list (Served.resource α) namespaceName selector = .ok values ∧
        values.map Served.ofJson? = objects.map some := by
  rw [Lookup.list, result_bind_eq_ok_iff]
  refine exists_congr fun values => ?_
  rw [listRaw, result_ask_eq_ok_iff]
  refine and_congr_right fun answered => ?_
  rw [result_ofExcept, mapM_eq_ok_iff]
  clear answered
  induction values generalizing objects with
  | nil => cases objects <;> simp
  | cons json rest ih =>
      cases objects with
      | nil => simp
      | cons object others => simp only [List.map_cons, List.cons.injEq, decode_eq_ok_iff, ih]

/-- A list of objects has as many of them as the cluster answers with. -/
theorem length_of_result_list {namespaceName selector : Option String} {objects : List α}
    (listed : (Lookup.list α namespaceName selector cluster).result = .ok objects) :
    ∃ values, cluster.list (Served.resource α) namespaceName selector = .ok values ∧
      objects.length = values.length := by
  obtain ⟨values, answered, each⟩ := result_list_eq_ok_iff.mp listed
  exact ⟨values, answered, by simpa using (congrArg List.length each).symm⟩

end Typed

end Tenancy.Lookup
