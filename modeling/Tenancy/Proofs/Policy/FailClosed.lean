import Tenancy.Cluster.Snapshot
import Tenancy.Proofs.Cluster.Failure
import Tenancy.Proofs.Config.Policies
import Tenancy.Proofs.FairUse.Workload
import Tenancy.Proofs.Policy.Basic
import Tenancy.Text.Digits

/-!
# Policies fail closed

Nothing that a cluster fails to answer is taken for an answer: once a question is
blocked, no other question is put and the request ends in an internal error.  Nothing
else than a blocked question leads to an internal error.
-/

namespace Tenancy

/-! ## Counts as texts -/

namespace Count

/-- Whether some characters write a count: digits of a number below 2⁶⁴, with an optional
plus in front. -/
def Denotes (chars : List Char) (count : Nat) : Prop :=
  ∃ digits : List Char, (chars = digits ∨ chars = '+' :: digits) ∧ digits ≠ [] ∧
    (∀ digit ∈ digits, digit.isDigit = true) ∧ Text.decimalValue digits 0 = count ∧
    count < Nat.pow 2 64

theorem le_decimalValue (digits : List Char) (before : Nat) :
    before ≤ Text.decimalValue digits before := by
  induction digits generalizing before with
  | nil => exact Nat.le_refl before
  | cons digit rest ih =>
      calc before ≤ before * 10 + (digit.toNat - '0'.toNat) := by omega
        _ ≤ Text.decimalValue rest (before * 10 + (digit.toNat - '0'.toNat)) := ih _

theorem fitsUnsigned_iff (value : Nat) :
    Width.fitsUnsigned 64 value = true ↔ value < Nat.pow 2 64 := by
  rw [Width.fitsUnsigned, Width.size, Bool.and_eq_true, decide_eq_true_iff,
    decide_eq_true_iff]
  exact (and_iff_right (Int.natCast_nonneg value)).trans Int.ofNat_lt

/-- Digits are read as their value, unless it is too large. -/
theorem digits_eq_ok_iff {before count : Nat} (small : before < Nat.pow 2 64) (chars : List Char) :
    digits before chars = .ok count ↔
      (∀ digit ∈ chars, digit.isDigit = true) ∧ Text.decimalValue chars before = count ∧
        count < Nat.pow 2 64 := by
  induction chars generalizing before with
  | nil =>
      simp only [digits, Text.decimalValue, List.foldl_nil, Except.ok.injEq, List.not_mem_nil,
        false_implies, implies_true, true_and]
      constructor
      · rintro rfl
        exact ⟨rfl, small⟩
      · exact fun isValue => isValue.1
  | cons digit rest ih =>
      rw [digits, List.forall_mem_cons]
      cases isDigit : digit.isDigit with
      | false => simp
      | true =>
          simp only [Bool.not_true, Bool.false_eq_true, if_false, true_and]
          change (if Width.fitsUnsigned 64 ↑(before * 10 + (digit.toNat - '0'.toNat)) then _
            else _) = _ ↔ _ ∧ Text.decimalValue rest (before * 10 + (digit.toNat - '0'.toNat)) =
              count ∧ _
          split
          next fits => exact ih ((fitsUnsigned_iff _).mp fits)
          next tooLarge =>
            rw [fitsUnsigned_iff] at tooLarge
            constructor
            · intro failed
              cases failed
            · rintro ⟨_, rfl, isSmall⟩
              exact absurd (Nat.lt_of_le_of_lt (le_decimalValue rest _) isSmall) tooLarge

/-- A text is read as a count exactly if it writes that count. -/
theorem parse_eq_ok_iff (chars : List Char) (count : Nat) :
    parse chars = .ok count ↔ Denotes chars count := by
  have zeroSmall : 0 < Nat.pow 2 64 := by decide
  unfold parse Denotes
  split
  next => simp
  next =>
    constructor
    · intro failed
      cases failed
    · rintro ⟨digits, rfl | same, notEmpty, allDigits, _⟩
      · exact absurd (allDigits '+' List.mem_cons_self) (by decide)
      · exact absurd (List.cons.inj same).2.symm notEmpty
  next digits hasDigits =>
    rw [digits_eq_ok_iff zeroSmall]
    constructor
    · rintro ⟨allDigits, isValue, isSmall⟩
      refine ⟨digits, .inr rfl, ?_, allDigits, isValue, isSmall⟩
      rintro rfl
      exact hasDigits rfl
    · rintro ⟨others, rfl | same, _, allDigits, isValue, isSmall⟩
      · exact absurd (allDigits '+' List.mem_cons_self) (by decide)
      · obtain rfl := (List.cons.inj same).2
        exact ⟨allDigits, isValue, isSmall⟩
  next notEmpty _ noPlus =>
    rw [digits_eq_ok_iff zeroSmall]
    constructor
    · rintro ⟨allDigits, isValue, isSmall⟩
      exact ⟨chars, .inl rfl, notEmpty, allDigits, isValue, isSmall⟩
    · rintro ⟨digits, rfl | rfl, _, allDigits, isValue, isSmall⟩
      · exact ⟨allDigits, isValue, isSmall⟩
      · exact absurd rfl (noPlus digits)

end Count

/-! ## Answers that keep a policy from deciding -/

/-- A namespace that has to exist is missing. -/
def Call.FindsNoNamespace (cluster : Cluster) (call : Call) : Prop :=
  ∃ name, call = .get (Served.resource Namespace) none name ∧
    cluster.get (Served.resource Namespace) none name = .ok none

/-- The override of a quota is found, and it is no count. -/
def Call.FindsNoCount (cluster : Cluster) (call : Call) : Prop :=
  ∃ namespaceName name json value, ∃ map : ConfigMap,
    call = .get (Served.resource ConfigMap) namespaceName name ∧
      cluster.get (Served.resource ConfigMap) namespaceName name = .ok (some json) ∧
      Served.ofJson? json = some map ∧
      map.data.bind (·.get? NamespaceLimit.overrideKey) = some value ∧
      ∀ count, ¬ Count.Denotes (Text.trim value.toList) count

/-- Among the pods of the namespace of a request is a running one that the workload under
review does not own, with a request for CPU or memory that is no quantity. -/
def Call.FindsNoQuantity (request : Request) (cluster : Cluster) (call : Call) : Prop :=
  ∃ values json, ∃ pod : Pod, ∃ workload,
    call = .list (Served.resource Pod) (some request.namespaceName) none ∧
      cluster.list (Served.resource Pod) (some request.namespaceName) none = .ok values ∧
      json ∈ values ∧ Served.ofJson? json = some pod ∧
      request.object.bind Workload.ofJson? = some workload ∧
      workload.owns request.name pod = false ∧ pod.isCountable = false

/-- Whether the answer to a question keeps a policy from deciding on a request, through no
fault of the caller. -/
def Call.Blocks (request : Request) (cluster : Cluster) (call : Call) : Prop :=
  cluster.fails call = true ∨ call.FindsNoNamespace cluster ∨ call.FindsNoCount cluster ∨
    call.FindsNoQuantity request cluster

namespace Call

variable {request : Request} {cluster : Cluster}

theorem blocks_clusterRoleBindings_iff :
    clusterRoleBindings.Blocks request cluster ↔ cluster.fails .clusterRoleBindings = true := by
  simp [Blocks, FindsNoNamespace, FindsNoCount, FindsNoQuantity]

theorem blocks_roleBindings_iff {namespaceName : Option String} :
    (roleBindings namespaceName).Blocks request cluster ↔
      cluster.fails (.roleBindings namespaceName) = true := by
  simp [Blocks, FindsNoNamespace, FindsNoCount, FindsNoQuantity]

theorem blocks_get_user_iff {username : String} :
    (get Resource.user none username).Blocks request cluster ↔
      cluster.fails (.get Resource.user none username) = true := by
  simp [Blocks, FindsNoNamespace, FindsNoCount, FindsNoQuantity, Resource.user, Served.resource]

theorem blocks_get_namespace_iff {name : String} :
    (get (Served.resource Namespace) none name).Blocks request cluster ↔
      cluster.fails (.get (Served.resource Namespace) none name) = true ∨
        cluster.get (Served.resource Namespace) none name = .ok none := by
  simp [Blocks, FindsNoNamespace, FindsNoCount, FindsNoQuantity, Served.resource]

theorem blocks_list_namespace_iff {selector : Option String} :
    (list (Served.resource Namespace) none selector).Blocks request cluster ↔
      cluster.fails (.list (Served.resource Namespace) none selector) = true := by
  simp [Blocks, FindsNoNamespace, FindsNoCount, FindsNoQuantity, Served.resource]

theorem blocks_get_configMap_iff {namespaceName : Option String} {name : String} :
    (get (Served.resource ConfigMap) namespaceName name).Blocks request cluster ↔
      cluster.fails (.get (Served.resource ConfigMap) namespaceName name) = true ∨
        ∃ json value, ∃ map : ConfigMap,
          cluster.get (Served.resource ConfigMap) namespaceName name = .ok (some json) ∧
            Served.ofJson? json = some map ∧
            map.data.bind (·.get? NamespaceLimit.overrideKey) = some value ∧
            ∀ count, ¬ Count.Denotes (Text.trim value.toList) count := by
  simp [Blocks, FindsNoNamespace, FindsNoCount, FindsNoQuantity, Served.resource]

theorem blocks_list_pod_iff :
    (list (Served.resource Pod) (some request.namespaceName) none).Blocks request cluster ↔
      cluster.fails (.list (Served.resource Pod) (some request.namespaceName) none) = true ∨
        ∃ values json, ∃ pod : Pod, ∃ workload,
          cluster.list (Served.resource Pod) (some request.namespaceName) none = .ok values ∧
            json ∈ values ∧ Served.ofJson? json = some pod ∧
            request.object.bind Workload.ofJson? = some workload ∧
            workload.owns request.name pod = false ∧ pod.isCountable = false := by
  simp [Blocks, FindsNoNamespace, FindsNoCount, FindsNoQuantity, Served.resource]

end Call

/-! ## Skippers -/

section Skip

variable {request : Request} {cluster : Cluster} {excused : Failure → Prop}

theorem Privileges.endsAt_holdsClusterRole (privileges : Privileges) (caller : Caller) :
    (privileges.holdsClusterRole caller cluster).EndsAt (Call.Blocks request cluster)
      excused := by
  unfold holdsClusterRole
  split
  · exact Lookup.endsAt_pure false
  · exact Lookup.endsAt_bind
      ((Lookup.answers_clusterRoleBindings cluster).endsAt Call.blocks_clusterRoleBindings_iff)
      fun _ => Lookup.endsAt_pure _

theorem Privileges.endsAt_holdsRole (privileges : Privileges) (caller : Caller)
    (namespaceName : String) :
    (privileges.holdsRole caller namespaceName cluster).EndsAt (Call.Blocks request cluster)
      excused := by
  unfold holdsRole
  split
  · exact Lookup.endsAt_pure false
  · exact Lookup.endsAt_bind
      ((Lookup.answers_roleBindings cluster _).endsAt Call.blocks_roleBindings_iff)
      fun _ => Lookup.endsAt_pure _

/-- The look-ups for privileged callers end at the first that is blocked. -/
theorem Privileges.endsAt_covers (privileges : Privileges) (caller : Caller)
    (namespaceName : String) :
    (privileges.covers caller namespaceName cluster).EndsAt (Call.Blocks request cluster)
      excused := by
  unfold covers
  split
  · exact Lookup.endsAt_pure true
  · split
    · exact Lookup.endsAt_pure true
    · refine Lookup.endsAt_bind (privileges.endsAt_holdsClusterRole caller) fun {holds} _ => ?_
      cases holds with
      | true => exact Lookup.endsAt_pure true
      | false => exact privileges.endsAt_holdsRole caller namespaceName

/-- A choice among skippers ends at the first look-up that is blocked if each of them
does. -/
theorem Skipper.endsAt_anyOf {asking : Request} (children : List Skipper)
    (each : ∀ child ∈ children,
      (child.skip asking cluster).EndsAt (Call.Blocks request cluster) excused) :
    ((anyOf children).skip asking cluster).EndsAt (Call.Blocks request cluster) excused := by
  rw [skip]
  induction children with
  | nil =>
      rw [skipAny]
      exact Lookup.endsAt_pure false
  | cons child rest ih =>
      obtain ⟨childEnds, restEnd⟩ := List.forall_mem_cons.mp each
      rw [skipAny]
      refine Lookup.endsAt_bind childEnds fun {skips} _ => ?_
      cases skips with
      | true => exact Lookup.endsAt_pure true
      | false => exact ih restEnd

theorem Skipper.endsAt_outsideOrganizations (organizationLabel : String) (asking : Request) :
    ((outsideOrganizations organizationLabel).skip asking cluster).EndsAt
      (Call.Blocks request cluster) excused := by
  rw [outsideOrganizations, skip]
  exact Lookup.endsAt_bind (Lookup.endsAt_require Call.blocks_get_namespace_iff)
    fun _ => Lookup.endsAt_pure _

theorem Config.endsAt_privilegedSkipper (config : Config) (asking : Request) :
    (config.privilegedSkipper.skip asking cluster).EndsAt (Call.Blocks request cluster)
      excused := by
  rw [privilegedSkipper, Skipper.privileged, Skipper.skip]
  exact config.privileges.endsAt_covers asking.caller asking.namespaceName

theorem Config.endsAt_workloadSkipper (config : Config) (asking : Request) :
    (config.workloadSkipper.skip asking cluster).EndsAt (Call.Blocks request cluster)
      excused := by
  refine Skipper.endsAt_anyOf _ fun child member => ?_
  rcases List.mem_cons.mp member with rfl | member
  · exact config.endsAt_privilegedSkipper asking
  · obtain rfl := List.mem_singleton.mp member
    exact Skipper.endsAt_outsideOrganizations config.organizationLabel asking

end Skip

/-! ## Deciding -/

section Decide

variable {request : Request} {cluster : Cluster} {excused : Failure → Prop}

theorem OrganizationRules.endsAt_decide (rules : OrganizationRules) (asking : Request)
    (states : States Namespace) :
    (rules.decide asking states cluster).EndsAt (Call.Blocks request cluster) excused := by
  obtain ⟨old, new⟩ := states
  cases new with
  | none => exact Lookup.endsAt_pure _
  | some created =>
      simp only [decide]
      cases (if asking.operation = .update then rules.organizationOf old else none) with
      | some owner => exact Lookup.endsAt_pure _
      | none =>
          cases rules.organizationOf (some created) with
          | some organization => exact Lookup.endsAt_pure _
          | none =>
              dsimp only
              split
              · refine Lookup.endsAt_bind (Lookup.endsAt_bind ?_ fun _ => Lookup.endsAt_pure _)
                  fun _ => Lookup.endsAt_pure _
                exact (Lookup.answers_getRaw_user cluster _).endsAt Call.blocks_get_user_iff
              · exact Lookup.endsAt_pure _

theorem NodeSelectors.endsAt_forNamespace (selectors : NodeSelectors) (namespaceName : String) :
    (selectors.forNamespace namespaceName cluster).EndsAt (Call.Blocks request cluster)
      excused := by
  unfold forNamespace
  cases selectors.classLabel with
  | none => exact Lookup.endsAt_pure _
  | some classLabel =>
      exact Lookup.endsAt_bind (Lookup.endsAt_require Call.blocks_get_namespace_iff)
        fun _ => Lookup.endsAt_pure _

namespace NamespaceLimit

/-- An override is read unless it is no count. -/
theorem readOverride_eq_ok_iff {namespaceName name value : String} {count : Nat} :
    readOverride namespaceName name value = .ok count ↔
      Count.Denotes (Text.trim value.toList) count := by
  rw [← Count.parse_eq_ok_iff, readOverride]
  cases Count.parse (Text.trim value.toList) <;> simp

theorem isInternal_of_readOverride {namespaceName name value : String} {failure : Failure}
    (failed : readOverride namespaceName name value = .error failure) :
    failure.isInternal = true := by
  unfold readOverride at failed
  split at failed
  · cases failed
  · cases failed
    rfl

/-- The override of a quota ends its look-up where it is no count, too. -/
theorem endsAt_forOrganization (limit : NamespaceLimit) (organization : String) :
    (limit.forOrganization organization cluster).EndsAt (Call.Blocks request cluster)
      excused := by
  unfold forOrganization
  cases limit.overrideNamespace with
  | none => exact Lookup.endsAt_pure _
  | some namespaceName =>
      have answers := Lookup.answers_get? (α := ConfigMap) cluster (some namespaceName)
        (overrideName organization)
      refine Lookup.endsAt_answer_bind answers .inl ?_ ?_ ?_
      · intro found _
        cases (found.bind (·.data)).bind (·.get? overrideKey) <;> rfl
      · intro found result isBlocking
        rcases Call.blocks_get_configMap_iff.mp isBlocking with
          failed | ⟨json, value, map, answered, mapRead, isOverride, noCount⟩
        · rw [answers.fails_eq_false result] at failed
          cases failed
        · obtain ⟨stored, alsoAnswered, isRead⟩ := Lookup.result_get?_eq_ok_iff.mp result
          obtain rfl : some json = stored := Except.ok.inj (answered.symm.trans alsoAnswered)
          rw [Option.map_some, mapRead] at isRead
          obtain ⟨found, rfl, same⟩ := Option.map_eq_some_iff.mp isRead.symm
          obtain rfl := Option.some.inj same
          rw [Option.bind_some, isOverride]
          cases read : readOverride namespaceName (overrideName organization) value with
          | ok count => exact absurd (readOverride_eq_ok_iff.mp read) (noCount count)
          | error failure => exact ⟨failure, read, isInternal_of_readOverride read⟩
      · intro found failure result failed
        cases override : (found.bind (·.data)).bind (·.get? overrideKey) with
        | none =>
            rw [override] at failed
            cases failed
        | some value =>
            rw [override, Lookup.result_ofExcept] at failed
            obtain ⟨stored, answered, isRead⟩ := Lookup.result_get?_eq_ok_iff.mp result
            obtain ⟨data, foundData, isOverride⟩ := Option.bind_eq_some_iff.mp override
            obtain ⟨map, rfl, mapData⟩ := Option.bind_eq_some_iff.mp foundData
            obtain ⟨json, rfl, mapRead⟩ := Option.map_eq_some_iff.mp isRead
            refine .inr (Call.blocks_get_configMap_iff.mpr
              (.inr ⟨json, value, map, answered, mapRead, ?_, ?_⟩))
            · rw [mapData]
              exact isOverride
            · intro count denotes
              rw [readOverride_eq_ok_iff.mpr denotes] at failed
              cases failed

end NamespaceLimit

/-- The pods of a namespace end the look-up where they cannot be added up, too; that the
workload under review cannot is the caller's fault. -/
theorem Workload.endsAt_totals {workload : Workload} (limit : Decimal)
    (reviewed : request.object.bind Workload.ofJson? = some workload) :
    ((do
      let pods ← Lookup.list Pod (some request.namespaceName) none
      let ratio ← Lookup.ofExcept (workload.totalWith request.name pods)
      return ratio.verdict limit : Lookup Verdict) cluster).EndsAt (Call.Blocks request cluster)
        fun failure => failure.isInternal = false := by
  have answers := Lookup.answers_list (α := Pod) cluster (some request.namespaceName) none
  refine Lookup.endsAt_answer_bind answers .inl ?_ ?_ ?_
  · intro pods _
    cases workload.totalWith request.name pods <;> rfl
  · intro pods result isBlocking
    have fails : ∃ failure, workload.totalWith request.name pods = .error failure ∧
        failure.isInternal = true := by
      rw [Workload.totalWith_fails_iff]
      rcases Call.blocks_list_pod_iff.mp isBlocking with
        failed | ⟨values, json, pod, other, answered, member, podRead, alsoReviewed, uncounted⟩
      · rw [answers.fails_eq_false result] at failed
        cases failed
      · obtain rfl : workload = other := Option.some.inj (reviewed.symm.trans alsoReviewed)
        obtain ⟨stored, alsoAnswered, isRead⟩ := Lookup.result_list_eq_ok_iff.mp result
        obtain rfl : values = stored := Except.ok.inj (answered.symm.trans alsoAnswered)
        exact ⟨pod, (Lookup.mem_iff_of_map_eq isRead).mpr ⟨json, member, podRead⟩, uncounted⟩
    obtain ⟨failure, failed, isInternal⟩ := fails
    rw [failed]
    exact ⟨failure, rfl, isInternal⟩
  · intro pods failure result failed
    cases total : workload.totalWith request.name pods with
    | ok ratio =>
        rw [total] at failed
        cases failed
    | error cause =>
        rw [total] at failed
        obtain rfl : cause = failure := Except.error.inj failed
        cases isInternal : cause.isInternal with
        | false => exact .inl rfl
        | true =>
            obtain ⟨pod, isPod, uncounted⟩ :=
              (Workload.totalWith_fails_iff _ _ _).mp ⟨cause, total, isInternal⟩
            obtain ⟨values, answered, isRead⟩ := Lookup.result_list_eq_ok_iff.mp result
            obtain ⟨json, member, podRead⟩ := (Lookup.mem_iff_of_map_eq isRead).mp isPod
            exact .inr (Call.blocks_list_pod_iff.mpr (.inr ⟨values, json, pod, workload, answered,
              member, podRead, reviewed, uncounted⟩))

/-! The policies, but for that on fair use, fail only where an answer is blocked. -/

namespace Policy

variable (skipper : Skipper)

theorem endsAt_namespaceMetadata (rules : MetadataRules) (states : States Namespace) :
    ((namespaceMetadata skipper rules).decide request states cluster).EndsAt
      (Call.Blocks request cluster) excused := by
  simp only [namespaceMetadata]
  split
  · exact Lookup.endsAt_pure _
  · exact Lookup.endsAt_pure _

theorem endsAt_nodeSelector (selectors : NodeSelectors) (states : States Pod) :
    ((nodeSelector skipper selectors).decide request states cluster).EndsAt
      (Call.Blocks request cluster) excused := by
  obtain ⟨old, new⟩ := states
  simp only [nodeSelector]
  split
  · exact Lookup.endsAt_pure _
  · cases new with
    | none => exact Lookup.endsAt_pure _
    | some pod =>
        exact Lookup.endsAt_bind (selectors.endsAt_forNamespace request.namespaceName)
          fun _ => Lookup.endsAt_pure _

theorem endsAt_namespaceQuota (limit : NamespaceLimit) (states : States Namespace) :
    ((namespaceQuota skipper limit).decide request states cluster).EndsAt
      (Call.Blocks request cluster) excused := by
  simp only [namespaceQuota]
  split
  · exact Lookup.endsAt_pure _
  · cases states.new.bind (·.metadata.label? limit.organizationLabel) with
    | none => exact Lookup.endsAt_pure _
    | some organization =>
        refine Lookup.endsAt_bind
          ((Lookup.answers_list cluster _ _).endsAt Call.blocks_list_namespace_iff) fun _ => ?_
        exact Lookup.endsAt_bind (limit.endsAt_forOrganization organization)
          fun _ => Lookup.endsAt_pure _

theorem endsAt_reservedNames (byKind : SortedMap Globs) (states : States AnyObject) :
    ((reservedNames skipper byKind).decide request states cluster).EndsAt
      (Call.Blocks request cluster) excused := by
  simp only [reservedNames]
  cases byKind.get? request.kind with
  | none => exact Lookup.endsAt_pure _
  | some reserved => exact Lookup.endsAt_pure _

theorem endsAt_loadBalancer (protectedKeys : Globs) (states : States Service) :
    ((loadBalancer skipper protectedKeys).decide request states cluster).EndsAt
      (Call.Blocks request cluster) excused := by
  simp only [loadBalancer]
  split
  · exact Lookup.endsAt_pure _
  · split
    · exact Lookup.endsAt_pure _
    · exact Lookup.endsAt_pure _

end Policy

end Decide

/-! ## Evaluating a policy -/

/-- The decision on a failure that is not the caller's. -/
theorem Failure.decision_of_isInternal {failure : Failure}
    (isInternal : failure.isInternal = true) :
    failure.decision = .internal failure := by
  cases failure with
  | decode failure => cases isInternal
  | _ => rfl

theorem Failure.isInternal_of_decision {failure cause : Failure}
    (decided : failure.decision = .error internalCode cause) : failure.isInternal = true := by
  cases failure with
  | decode failure =>
      have sameCode : badRequestCode = internalCode := (Decision.error.inj decided).1
      exact absurd sameCode (by decide)
  | _ => rfl

/-- An evaluation ends at the first answer that blocks it, in an internal error, and it
ends in an internal error for no other reason. -/
structure Evaluation.FailsClosed (blocks : Call → Prop) (evaluation : Evaluation) : Prop where
  last : ∀ {before call after}, evaluation.calls = before ++ call :: after → blocks call →
    after = [] ∧ ∃ cause, evaluation.decision = .error internalCode cause
  blocked : ∀ {cause}, evaluation.decision = .error internalCode cause →
    ∃ call ∈ evaluation.calls, blocks call

namespace Policy

variable {α : Type} {policy : Policy α} {request : Request} {cluster : Cluster}
  {blocks : Call → Prop}

theorem failsClosed_decideRequest
    (decideEnds : ∀ {states}, States.ofRequest policy.decode request = .ok states →
      (policy.decide request states cluster).EndsAt blocks fun failure =>
        failure.isInternal = false) :
    (policy.decideRequest request cluster).FailsClosed blocks := by
  unfold decideRequest
  cases isRead : States.ofRequest policy.decode request with
  | error failure =>
      constructor
      · intro before call after split
        simp at split
      · intro cause decided
        have sameCode : badRequestCode = internalCode := (Decision.error.inj decided).1
        exact absurd sameCode (by decide)
  | ok states =>
      have ends := decideEnds isRead
      dsimp only
      cases result : (policy.decide request states cluster).result with
      | ok verdict =>
          constructor
          · intro before call after split isBlocking
            obtain ⟨_, failure, failed, _⟩ := ends.last split isBlocking
            rw [result] at failed
            cases failed
          · intro cause decided
            cases verdict <;> cases decided
      | error failure =>
          constructor
          · intro before call after split isBlocking
            obtain ⟨isLast, cause, failed, isInternal⟩ := ends.last split isBlocking
            obtain rfl : failure = cause := Except.error.inj (result.symm.trans failed)
            exact ⟨isLast, failure, Failure.decision_of_isInternal isInternal⟩
          · intro cause decided
            rcases ends.blocked result with isExcused | isBlocked
            · rw [Failure.isInternal_of_decision decided] at isExcused
              cases isExcused
            · exact isBlocked

/-- A policy fails closed if its skipper and its verdict end at the first answer that is
blocked. -/
theorem failsClosed_evaluate
    (skipEnds : (policy.skipper.skip request cluster).EndsAt blocks fun _ => False)
    (decideEnds : ∀ {states}, States.ofRequest policy.decode request = .ok states →
      (policy.decide request states cluster).EndsAt blocks fun failure =>
        failure.isInternal = false) :
    (policy.evaluate request cluster).FailsClosed blocks := by
  have decides := failsClosed_decideRequest decideEnds
  unfold evaluate
  dsimp only
  cases result : (policy.skipper.skip request cluster).result with
  | error failure =>
      constructor
      · intro before call after split isBlocking
        exact ⟨(skipEnds.last split isBlocking).1, _, rfl⟩
      · intro cause _
        rcases skipEnds.blocked result with impossible | isBlocked
        · cases impossible
        · exact isBlocked
  | ok skips =>
      have notBlocked {before call after}
          (split : (policy.skipper.skip request cluster).calls = before ++ call :: after)
          (isBlocking : blocks call) : False := by
        obtain ⟨_, failure, failed, _⟩ := skipEnds.last split isBlocking
        rw [result] at failed
        cases failed
      cases skips with
      | true =>
          constructor
          · intro before call after split isBlocking
            exact (notBlocked split isBlocking).elim
          · intro cause decided
            cases decided
      | false =>
          constructor
          · intro before call after split isBlocking
            rcases Lookup.split_append split with ⟨middle, inSkip⟩ | ⟨middle, inDecide⟩
            · exact (notBlocked inSkip isBlocking).elim
            · exact decides.last inDecide isBlocking
          · intro cause decided
            obtain ⟨call, asked, isBlocking⟩ := decides.blocked decided
            exact ⟨call, List.mem_append_right _ asked, isBlocking⟩

end Policy

/-! ## The policies of a configuration -/

section Config

variable {config : Config} {handlers : List Handler} {handler : Handler}

/-- Every handler that a configuration makes fails closed. -/
theorem Config.Makes.failsClosed (makes : config.Makes handler) (request : Request)
    (cluster : Cluster) :
    (handler.evaluate request cluster).FailsClosed (Call.Blocks request cluster) := by
  cases makes with
  | namespaceMetadata =>
      exact Policy.failsClosed_evaluate (config.endsAt_privilegedSkipper request) fun _ =>
        Policy.endsAt_namespaceMetadata _ _ _
  | organization =>
      exact Policy.failsClosed_evaluate (config.endsAt_privilegedSkipper request) fun _ =>
        OrganizationRules.endsAt_decide _ request _
  | nodeSelector =>
      exact Policy.failsClosed_evaluate (config.endsAt_workloadSkipper request) fun _ =>
        Policy.endsAt_nodeSelector _ _ _
  | namespaceQuota =>
      exact Policy.failsClosed_evaluate (config.endsAt_privilegedSkipper request) fun _ =>
        Policy.endsAt_namespaceQuota _ _ _
  | fairUse =>
      refine Policy.failsClosed_evaluate (config.endsAt_workloadSkipper request)
        fun {states} isRead => ?_
      obtain ⟨old, new⟩ := states
      simp only [Policy.fairUse]
      split
      · exact Lookup.endsAt_pure _
      · cases new with
        | none => exact Lookup.endsAt_pure _
        | some workload =>
            have reviewed := eq_bind_of_map_eq (States.of_ofRequest_eq_ok isRead).1
            exact Workload.endsAt_totals _ reviewed.symm
  | reservedNames =>
      exact Policy.failsClosed_evaluate (config.endsAt_privilegedSkipper request) fun _ =>
        Policy.endsAt_reservedNames _ _ _
  | loadBalancer =>
      exact Policy.failsClosed_evaluate (config.endsAt_privilegedSkipper request) fun _ =>
        Policy.endsAt_loadBalancer _ _ _

/-- Whatever a policy of a configuration asks, a question that is blocked is the last one
and makes the decision an internal error, and every internal error is due to a question
that is blocked: one that fails or is answered with something that cannot be read, a
namespace that has to exist and does not, an override that is no count, or a running pod
of someone else with a request that is no quantity. -/
theorem Config.failsClosed_of_mem_policies (built : config.policies = .ok handlers)
    (member : handler ∈ handlers) (request : Request) (cluster : Cluster) :
    (∀ before call after, (handler.evaluate request cluster).calls = before ++ call :: after →
        call.Blocks request cluster →
          after = [] ∧ ∃ cause, (handler.evaluate request cluster).decision = .error 500 cause) ∧
      ∀ cause, (handler.evaluate request cluster).decision = .error 500 cause →
        ∃ call ∈ (handler.evaluate request cluster).calls, call.Blocks request cluster := by
  have failsClosed := (Config.makes_of_mem_policies built member).failsClosed request cluster
  constructor
  · intro before call after split isBlocking
    exact failsClosed.last split isBlocking
  · intro cause decided
    exact failsClosed.blocked decided

/-! ### A namespace that cannot be read -/

/-- A request to create a pod. -/
def Request.samplePod : Request where
  caller := ⟨"alice", ["acme"]⟩
  namespaceName := "web"
  name := "api"
  kind := "Pod"
  operation := .create
  oldObject := none
  object := some (.object [("spec", .object [])])

/-- A cluster with a namespace whose metadata are no object. -/
def Snapshot.sampleUnreadable : Snapshot where
  objects := [⟨"Namespace", "", "web", .object [("metadata", .text "web")]⟩]
  failing := []
  roleBindings := []
  clusterRoleBindings := []

/-- A pod in the namespace that cannot be read is not let in. -/
theorem Config.failsClosed_samplePod :
    ∃ handlers handler, Config.default.policies = .ok handlers ∧ handler ∈ handlers ∧
      handler.name = "node-selector" ∧ ∃ cause,
        (handler.evaluate .samplePod Snapshot.sampleUnreadable.toCluster).decision =
          .error 500 cause := by
  have built : ∃ handlers, Config.default.policies = .ok handlers ∧
      (Policy.nodeSelector Config.default.workloadSkipper ⟨.empty, none, .empty⟩).handler ∈
        handlers :=
    ⟨_, rfl, by simp [Config.default]⟩
  obtain ⟨handlers, built, member⟩ := built
  refine ⟨handlers, _, built, member, rfl, ?_⟩
  have asked : ((Policy.nodeSelector Config.default.workloadSkipper
      ⟨.empty, none, .empty⟩).handler.evaluate .samplePod
        Snapshot.sampleUnreadable.toCluster).calls =
      [] ++ .get (Served.resource Namespace) none "web" :: [] :=
    rfl
  exact ((failsClosed_of_mem_policies built member .samplePod
    Snapshot.sampleUnreadable.toCluster).1 _ _ _ asked (.inl rfl)).2

end Config

end Tenancy
