import Tenancy.Proofs.Cluster.Lookup

/-!
# Look-ups that end at the first failure

A cluster may fail to answer a question, or answer it with something that cannot be
read as what was asked for.  A single question fails exactly then.  A look-up that is
made of several ends with the first answer that keeps it from going on, so no question
follows one that failed.
-/

namespace Tenancy

universe u v

@[simp]
theorem isOk_ok {ε : Type u} {α : Type v} (value : α) : (.ok value : Except ε α).isOk = true :=
  rfl

@[simp]
theorem isOk_error {ε : Type u} {α : Type v} (cause : ε) :
    (.error cause : Except ε α).isOk = false :=
  rfl

/-! ## Questions that fail -/

/-- Whether a stored value can be read as an object of a resource.  Namespaces, pods and
maps of configuration texts are read; other objects are taken as they are stored. -/
def Resource.reads (resource : Resource) (json : Json) : Bool :=
  if resource = Served.resource Namespace then (Served.ofJson? (α := Namespace) json).isSome
  else if resource = Served.resource Pod then (Served.ofJson? (α := Pod) json).isSome
  else if resource = Served.resource ConfigMap then
    (Served.ofJson? (α := ConfigMap) json).isSome
  else true

/-- The types of objects that are read when they are looked up. -/
class LookedUp (α : Type) [Served α] : Prop where
  reads_eq : ∀ json, (Served.resource α).reads json = (Served.ofJson? (α := α) json).isSome

instance : LookedUp Namespace := ⟨fun _ => rfl⟩

instance : LookedUp Pod := ⟨fun _ => rfl⟩

instance : LookedUp ConfigMap := ⟨fun _ => rfl⟩

/-- Whether a cluster fails to answer a question, or answers it with something that
cannot be read. -/
def Cluster.fails (cluster : Cluster) : Call → Bool
  | .get resource namespaceName name =>
      match cluster.get resource namespaceName name with
      | .ok found => !found.all resource.reads
      | .error _ => true
  | .list resource namespaceName selector =>
      match cluster.list resource namespaceName selector with
      | .ok values => !values.all resource.reads
      | .error _ => true
  | .roleBindings namespaceName => !(cluster.roleBindings namespaceName).isOk
  | .clusterRoleBindings => !cluster.clusterRoleBindings.isOk
  | .check _ => false

namespace Outcome

variable {α β : Type u} {cluster : Cluster} {call : Call} {outcome : Outcome α}

/-- What comes of one question: it is put, and fails exactly if the cluster fails to
answer it. -/
structure Answers (cluster : Cluster) (call : Call) (outcome : Outcome α) : Prop where
  calls : outcome.calls = [call]
  isFetch : ∀ {failure}, outcome.result = .error failure → ∃ cause, failure = .fetch cause
  fails : (∃ failure, outcome.result = .error failure) ↔ cluster.fails call = true

/-- A question that has a result does not fail. -/
theorem Answers.fails_eq_false (answers : outcome.Answers cluster call) {value : α}
    (answered : outcome.result = .ok value) : cluster.fails call = false := by
  by_contra failed
  obtain ⟨failure, isFailure⟩ := answers.fails.mpr (Bool.not_eq_false _ ▸ failed)
  rw [answered] at isFailure
  cases isFailure

end Outcome

namespace Lookup

section Bind

variable {α β : Type u} {cluster : Cluster} {first : Lookup α} {next : α → Lookup β}

theorem bind_of_result_eq_ok {value : α} (answered : (first cluster).result = .ok value) :
    (first >>= next) cluster =
      ⟨(first cluster).calls ++ (next value cluster).calls, (next value cluster).result⟩ := by
  change Lookup.bind first next cluster = _
  simp only [Lookup.bind, answered]

theorem bind_of_result_eq_error {failure : Failure}
    (failed : (first cluster).result = .error failure) :
    (first >>= next) cluster = ⟨(first cluster).calls, .error failure⟩ := by
  change Lookup.bind first next cluster = _
  simp only [Lookup.bind, failed]

end Bind

section Ask

variable {α β : Type u} {cluster : Cluster} {call : Call}
  {answer : Cluster → Except FetchFailure α}

/-- A question whose answer needs no reading fails exactly if the cluster fails. -/
theorem answers_ask (fails : cluster.fails call = !(answer cluster).isOk) :
    (ask call answer cluster).Answers cluster call := by
  cases answered : answer cluster with
  | ok value =>
      rw [answered] at fails
      refine ⟨rfl, ?_, ?_⟩
      · intro failure failed
        simp [ask, answered, Except.mapError] at failed
      · simp [ask, answered, Except.mapError, fails]
  | error cause =>
      rw [answered] at fails
      refine ⟨rfl, ?_, ?_⟩
      · intro failure failed
        simp only [ask, answered, Except.mapError, Except.error.injEq] at failed
        exact ⟨cause, failed.symm⟩
      · simp [ask, answered, Except.mapError, fails]

/-- A question whose answer is read fails exactly if the cluster fails, or answers with
something that cannot be read. -/
theorem answers_ask_bind {read : α → Except Failure β}
    (isFetch : ∀ {value failure}, read value = .error failure → ∃ cause, failure = .fetch cause)
    (fails : cluster.fails call =
      match answer cluster with
      | .ok value => !(read value).isOk
      | .error _ => true) :
    ((ask call answer >>= fun value => ofExcept (read value)) cluster).Answers cluster call := by
  cases answered : answer cluster with
  | error cause =>
      have failed : (ask call answer cluster).result = .error (.fetch cause) := by
        simp [ask, answered, Except.mapError]
      rw [answered] at fails
      rw [bind_of_result_eq_error failed]
      exact ⟨rfl, fun same => ⟨cause, (Except.error.inj same).symm⟩, by simp [fails]⟩
  | ok value =>
      have given : (ask call answer cluster).result = .ok value := by
        simp [ask, answered, Except.mapError]
      rw [answered] at fails
      rw [bind_of_result_eq_ok given]
      refine ⟨rfl, isFetch, ?_⟩
      rw [fails, result_ofExcept]
      cases isRead : read value <;> simp [isRead]

end Ask

/-! ## Reading what is found -/

theorem isOk_decode {α : Type} [Served α] (key : String) (json : Json) :
    (decode α key json).isOk = (Served.ofJson? (α := α) json).isSome := by
  rw [decode]
  cases Served.ofJson? (α := α) json <;> rfl

/-- What cannot be read is a failure of the look-up. -/
theorem exists_fetch_of_decode {α : Type} [Served α] {key : String} {json : Json}
    {failure : Failure} (failed : decode α key json = .error failure) :
    ∃ cause, failure = .fetch cause := by
  rw [decode] at failed
  cases isRead : Served.ofJson? (α := α) json with
  | some object => simp [isRead] at failed
  | none =>
      simp only [isRead, Except.error.injEq] at failed
      exact ⟨_, failed.symm⟩

/-- Read what is found, if anything is. -/
def decodeFound (α : Type) [Served α] (key : String) : Option Json → Except Failure (Option α)
  | none => .ok none
  | some json => (decode α key json).map some

theorem isOk_decodeFound {α : Type} [Served α] (key : String) (found : Option Json) :
    (decodeFound α key found).isOk =
      found.all fun json => (Served.ofJson? (α := α) json).isSome := by
  cases found with
  | none => rfl
  | some json =>
      rw [Option.all_some, ← isOk_decode key json, decodeFound]
      cases decode α key json <;> rfl

theorem exists_fetch_of_decodeFound {α : Type} [Served α] {key : String} {found : Option Json}
    {failure : Failure} (failed : decodeFound α key found = .error failure) :
    ∃ cause, failure = .fetch cause := by
  cases found with
  | none => cases failed
  | some json =>
      cases decoded : decode α key json with
      | ok object => simp [decodeFound, decoded, Except.map] at failed
      | error cause =>
          simp only [decodeFound, decoded, Except.map, Except.error.injEq] at failed
          exact exists_fetch_of_decode (failed ▸ decoded)

/-- Looking an object up is a question whose answer is read. -/
theorem get?_eq_bind (α : Type) [Served α] (namespaceName : Option String) (name : String) :
    get? α namespaceName name =
      getRaw (Served.resource α) namespaceName name >>= fun found =>
        ofExcept (decodeFound α (objectKey namespaceName name) found) := by
  rw [get?]
  congr 1
  funext found
  cases found <;> rfl

section Entries

variable {ε α β : Type} {read : α → Except ε β} {list : List α}

/-- A list is read exactly if each of its entries is. -/
theorem isOk_mapM : (list.mapM read).isOk = list.all fun entry => (read entry).isOk := by
  induction list with
  | nil => rfl
  | cons head rest ih =>
      rw [List.mapM_cons, List.all_cons, ← ih]
      cases read head with
      | error failure => rfl
      | ok value => cases rest.mapM read <;> rfl

/-- The failure to read a list is that to read an entry. -/
theorem exists_mem_of_mapM_eq_error {failure : ε}
    (failed : list.mapM read = .error failure) : ∃ entry ∈ list, read entry = .error failure := by
  induction list with
  | nil => cases failed
  | cons head rest ih =>
      rw [List.mapM_cons] at failed
      cases headRead : read head with
      | error cause =>
          simp only [headRead, Bind.bind, Except.bind, Except.error.injEq] at failed
          exact ⟨head, List.mem_cons_self, failed ▸ headRead⟩
      | ok value =>
          cases restRead : rest.mapM read with
          | error cause =>
              simp only [headRead, restRead, Bind.bind, Except.bind, Except.error.injEq] at failed
              obtain ⟨entry, member, entryRead⟩ := ih (failed ▸ restRead)
              exact ⟨entry, List.mem_cons_of_mem _ member, entryRead⟩
          | ok values =>
              simp [headRead, restRead, Bind.bind, Except.bind, Pure.pure, Except.pure] at failed

end Entries

/-! ## Single questions -/

theorem answers_roleBindings (cluster : Cluster) (namespaceName : Option String) :
    (roleBindings namespaceName cluster).Answers cluster (.roleBindings namespaceName) :=
  answers_ask rfl

theorem answers_clusterRoleBindings (cluster : Cluster) :
    (clusterRoleBindings cluster).Answers cluster .clusterRoleBindings :=
  answers_ask rfl

/-- Users are taken as they are stored. -/
theorem answers_getRaw_user (cluster : Cluster) (username : String) :
    (getRaw Resource.user none username cluster).Answers cluster
      (.get Resource.user none username) := by
  apply answers_ask
  rw [Cluster.fails]
  cases cluster.get Resource.user none username with
  | error cause => rfl
  | ok found => cases found <;> rfl

section Typed

variable {α : Type} [Served α] [LookedUp α]

theorem answers_get? (cluster : Cluster) (namespaceName : Option String) (name : String) :
    (get? α namespaceName name cluster).Answers cluster
      (.get (Served.resource α) namespaceName name) := by
  rw [get?_eq_bind]
  refine answers_ask_bind ?_ ?_
  · intro found failure failed
    exact exists_fetch_of_decodeFound failed
  · rw [Cluster.fails]
    cases cluster.get (Served.resource α) namespaceName name with
    | error cause => rfl
    | ok found =>
        change (!found.all (Served.resource α).reads) = !(decodeFound α _ found).isOk
        rw [isOk_decodeFound, ← funext LookedUp.reads_eq]

theorem answers_list (cluster : Cluster) (namespaceName selector : Option String) :
    (list α namespaceName selector cluster).Answers cluster
      (.list (Served.resource α) namespaceName selector) := by
  refine answers_ask_bind ?_ ?_
  · intro values failure failed
    obtain ⟨json, _, decoded⟩ := exists_mem_of_mapM_eq_error failed
    exact exists_fetch_of_decode decoded
  · rw [Cluster.fails]
    cases cluster.list (Served.resource α) namespaceName selector with
    | error cause => rfl
    | ok values =>
        change (!values.all (Served.resource α).reads) = !(values.mapM (decode α _)).isOk
        simp only [isOk_mapM, isOk_decode, ← LookedUp.reads_eq]

end Typed

end Lookup

/-! ## Several questions -/

/-- Whether a failure is not the caller's. -/
def Failure.isInternal : Failure → Bool
  | .decode _ => false
  | _ => true

/-- A look-up ends at the first answer that blocks it, and then it fails.  It fails for no
other reason, unless its failure is excused. -/
structure Outcome.EndsAt {α : Type u} (blocks : Call → Prop) (excused : Failure → Prop)
    (outcome : Outcome α) : Prop where
  last : ∀ {before call after}, outcome.calls = before ++ call :: after → blocks call →
    after = [] ∧ ∃ failure, outcome.result = .error failure ∧ failure.isInternal = true
  blocked : ∀ {failure}, outcome.result = .error failure →
    excused failure ∨ ∃ call ∈ outcome.calls, blocks call

namespace Outcome

variable {α : Type u} {blocks : Call → Prop} {excused : Failure → Prop} {outcome : Outcome α}

/-- Without a question nothing blocks. -/
theorem EndsAt.of_calls_eq_nil (noCall : outcome.calls = [])
    (isExcused : ∀ {failure}, outcome.result = .error failure → excused failure) :
    outcome.EndsAt blocks excused where
  last split _ := by simp [noCall] at split
  blocked failed := .inl (isExcused failed)

/-- The answer to the only question decides whether a look-up fails. -/
theorem EndsAt.of_calls_eq_singleton {call : Call} (onlyCall : outcome.calls = [call])
    (fails : blocks call →
      ∃ failure, outcome.result = .error failure ∧ failure.isInternal = true)
    (isBlocked : ∀ {failure}, outcome.result = .error failure → excused failure ∨ blocks call) :
    outcome.EndsAt blocks excused where
  last := by
    intro before asked after split isBlocking
    rw [onlyCall] at split
    obtain ⟨rfl, rfl, rfl⟩ : before = [] ∧ asked = call ∧ after = [] := by
      simpa using List.append_eq_singleton_iff.mp split.symm
    exact ⟨rfl, fails isBlocking⟩
  blocked := by
    intro failure failed
    rcases isBlocked failed with isExcused | isBlocking
    · exact .inl isExcused
    · exact .inr ⟨call, by simp [onlyCall], isBlocking⟩

/-- A single question ends at its answer if it is blocked exactly when it fails. -/
theorem Answers.endsAt {cluster : Cluster} {call : Call} (answers : outcome.Answers cluster call)
    (blocksIff : blocks call ↔ cluster.fails call = true) : outcome.EndsAt blocks excused := by
  refine .of_calls_eq_singleton answers.calls ?_ ?_
  · intro isBlocking
    obtain ⟨failure, failed⟩ := answers.fails.mpr (blocksIff.mp isBlocking)
    obtain ⟨cause, rfl⟩ := answers.isFetch failed
    exact ⟨.fetch cause, failed, rfl⟩
  · intro failure failed
    exact .inr (blocksIff.mpr (answers.fails.mp ⟨failure, failed⟩))

end Outcome

namespace Lookup

variable {α β : Type u} {cluster : Cluster} {blocks : Call → Prop} {excused : Failure → Prop}

theorem endsAt_pure (value : α) :
    ((Pure.pure value : Lookup α) cluster).EndsAt blocks excused :=
  .of_calls_eq_nil rfl fun failed => nomatch failed

/-- A question in a sequence of two parts is in the first of them or in the second. -/
theorem split_append {first rest before after : List Call} {call : Call}
    (split : first ++ rest = before ++ call :: after) :
    (∃ middle, first = before ++ call :: middle) ∨ ∃ middle, rest = middle ++ call :: after := by
  rcases List.append_eq_append_iff.mp split with
    ⟨middle, _, inRest⟩ | ⟨middle, inFirst, inRest⟩
  · exact .inr ⟨middle, inRest⟩
  · cases middle with
    | nil => exact .inr ⟨[], inRest.symm⟩
    | cons head middle =>
        obtain ⟨rfl, _⟩ := List.cons.inj inRest
        exact .inl ⟨middle, inFirst⟩

/-- A look-up that goes on with another ends where one of them does. -/
theorem endsAt_bind {first : Lookup α} {next : α → Lookup β}
    (firstEnds : (first cluster).EndsAt blocks excused)
    (nextEnds : ∀ {value}, (first cluster).result = .ok value →
      (next value cluster).EndsAt blocks excused) :
    ((first >>= next) cluster).EndsAt blocks excused := by
  cases result : (first cluster).result with
  | error failure =>
      rw [bind_of_result_eq_error result]
      constructor
      · intro before call after split isBlocking
        obtain ⟨isLast, cause, failed, isInternal⟩ := firstEnds.last split isBlocking
        obtain rfl : failure = cause := Except.error.inj (result.symm.trans failed)
        exact ⟨isLast, failure, rfl, isInternal⟩
      · intro cause same
        cases same
        exact firstEnds.blocked result
  | ok value =>
      have restEnds := nextEnds result
      rw [bind_of_result_eq_ok result]
      constructor
      · intro before call after split isBlocking
        rcases split_append split with ⟨middle, inFirst⟩ | ⟨middle, inRest⟩
        · -- the first look-up has a result, so none of its questions was blocked
          obtain ⟨_, failure, failed, _⟩ := firstEnds.last inFirst isBlocking
          rw [result] at failed
          cases failed
        · exact restEnds.last inRest isBlocking
      · intro failure failed
        rcases restEnds.blocked failed with isExcused | ⟨call, asked, isBlocking⟩
        · exact .inl isExcused
        · exact .inr ⟨call, List.mem_append_right _ asked, isBlocking⟩

/-- A question whose answer may keep the look-up from going on ends it there. -/
theorem endsAt_answer_bind {call : Call} {first : Lookup α} {next : α → Lookup β}
    (answers : (first cluster).Answers cluster call)
    (failsBlocked : cluster.fails call = true → blocks call)
    (noCall : ∀ {value}, (first cluster).result = .ok value → (next value cluster).calls = [])
    (fails : ∀ {value}, (first cluster).result = .ok value → blocks call →
      ∃ failure, (next value cluster).result = .error failure ∧ failure.isInternal = true)
    (isBlocked : ∀ {value failure}, (first cluster).result = .ok value →
      (next value cluster).result = .error failure → excused failure ∨ blocks call) :
    ((first >>= next) cluster).EndsAt blocks excused := by
  cases result : (first cluster).result with
  | error failure =>
      obtain ⟨cause, rfl⟩ := answers.isFetch result
      have failed := answers.fails.mp ⟨_, result⟩
      rw [bind_of_result_eq_error result]
      refine .of_calls_eq_singleton answers.calls ?_ ?_
      · exact fun _ => ⟨.fetch cause, rfl, rfl⟩
      · exact fun _ => .inr (failsBlocked failed)
  | ok value =>
      rw [bind_of_result_eq_ok result]
      refine .of_calls_eq_singleton ?_ (fails result) (isBlocked result)
      rw [answers.calls, noCall result, List.append_nil]

/-- An object that has to exist ends its look-up where it is missing, too. -/
theorem endsAt_require {α : Type} {cluster : Cluster} [Served α] [LookedUp α]
    {namespaceName : Option String} {name : String}
    (blocksIff : blocks (.get (Served.resource α) namespaceName name) ↔
      cluster.fails (.get (Served.resource α) namespaceName name) = true ∨
        cluster.get (Served.resource α) namespaceName name = .ok none) :
    (require α namespaceName name cluster).EndsAt blocks excused := by
  have answers := answers_get? (α := α) cluster namespaceName name
  refine endsAt_answer_bind answers (fun failed => blocksIff.mpr (.inl failed)) ?_ ?_ ?_
  · intro found _
    cases found <;> rfl
  · intro found result isBlocking
    rcases blocksIff.mp isBlocking with failed | missing
    · rw [answers.fails_eq_false result] at failed
      cases failed
    · obtain ⟨stored, answered, isRead⟩ := result_get?_eq_ok_iff.mp result
      obtain rfl : none = stored := Except.ok.inj (missing.symm.trans answered)
      obtain rfl := Option.map_eq_none_iff.mp isRead.symm
      exact ⟨_, rfl, rfl⟩
  · intro found failure result failed
    cases found with
    | some object => cases failed
    | none =>
        obtain ⟨stored, answered, isRead⟩ := result_get?_eq_ok_iff.mp result
        obtain rfl := Option.map_eq_none_iff.mp isRead
        exact .inr (blocksIff.mpr (.inr answered))

end Lookup

end Tenancy
