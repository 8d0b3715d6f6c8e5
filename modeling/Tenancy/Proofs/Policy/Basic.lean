import Tenancy.Policy.Basic
import Tenancy.Proofs.Bypass
import Tenancy.Proofs.Cluster.Lookup
import Tenancy.Proofs.Json.Patch

/-!
# Requests that a policy admits

A request goes on after a policy has allowed it, with its object changed if the
policy patched it.  A policy that looked at a request it admits has read every
state that the request carries and come to a verdict on them.
-/

namespace Tenancy

variable {α : Type}

/-- The request as it goes on after a decision: as it came if it is allowed, with its
object changed if it is patched, and not at all otherwise. -/
def Decision.carryOut? (decision : Decision) (request : Request) : Option Request :=
  match decision with
  | .allow .. => some request
  | .patch _ operations =>
      (request.object.bind (PatchOperation.applyAll? operations)).map fun changed =>
        { request with object := some changed }
  | .deny .. => none
  | .error .. => none

/-- A request that is allowed goes on as it came. -/
theorem Verdict.eq_of_carryOut?_allowed {request admitted : Request} {reason : String}
    (goesOn : (allowed reason).decision.carryOut? request = some admitted) :
    admitted = request :=
  (Option.some.inj goesOn).symm

/-- A policy looks at a request and lets it go on as an admitted one. -/
structure Policy.Admits (policy : Policy α) (cluster : Cluster)
    (request admitted : Request) : Prop where
  looked : (policy.skipper.skip request cluster).result = .ok false
  goesOn : (policy.evaluate request cluster).decision.carryOut? request = some admitted

namespace States

/-- A state is read exactly when it is absent or can be read. -/
theorem decodeField_eq_ok_iff {decode : Json → Option α} {field : String}
    {value : Option Json} {found : Option α} :
    decodeField decode field value = .ok found ↔ value.map decode = found.map some := by
  cases value with
  | none => cases found <;> simp [decodeField]
  | some json =>
      cases isRead : decode json <;> cases found <;> simp [decodeField, isRead]

/-- The states of a request are the objects that it carries, read. -/
theorem of_ofRequest_eq_ok {decode : Json → Option α} {request : Request} {states : States α}
    (isRead : ofRequest decode request = .ok states) :
    request.object.map decode = states.new.map some ∧
      request.oldObject.map decode = states.old.map some := by
  unfold ofRequest at isRead
  cases newRead : decodeField decode "object" request.object with
  | error failure => simp [newRead, bind, Except.bind] at isRead
  | ok new =>
      cases oldRead : decodeField decode "oldObject" request.oldObject with
      | error failure => simp [newRead, oldRead, bind, Except.bind] at isRead
      | ok old =>
          simp only [newRead, oldRead, bind, Except.bind, pure, Except.pure] at isRead
          split at isRead
          · cases isRead
          · cases isRead
            exact ⟨decodeField_eq_ok_iff.mp newRead, decodeField_eq_ok_iff.mp oldRead⟩

/-- With another object that is read, a request has that one as its new state. -/
theorem ofRequest_withObject {decode : Json → Option α} {request : Request} {states : States α}
    (isRead : ofRequest decode request = .ok states) {changed : Json} {new : α}
    (changedRead : decode changed = some new) :
    ofRequest decode { request with object := some changed } = .ok ⟨states.old, some new⟩ := by
  have newRead : decodeField decode "object" (some changed) = .ok (some new) := by
    simp [decodeField, changedRead]
  have oldRead : decodeField decode "oldObject" request.oldObject = .ok states.old :=
    decodeField_eq_ok_iff.mpr (of_ofRequest_eq_ok isRead).2
  simp [ofRequest, newRead, oldRead, bind, Except.bind, pure, Except.pure]

end States

/-- An object that is absent or read is what reading gives. -/
theorem eq_bind_of_map_eq {decode : Json → Option α} {value : Option Json} {found : Option α}
    (isRead : value.map decode = found.map some) : found = value.bind decode := by
  cases value <;> cases found <;> simp_all

namespace Policy

variable {policy : Policy α} {request admitted : Request} {cluster : Cluster}

/-- The decision on a request that is not skipped. -/
theorem evaluate_decision_of_looked
    (looked : (policy.skipper.skip request cluster).result = .ok false) :
    (policy.evaluate request cluster).decision =
      (policy.decideRequest request cluster).decision := by
  simp only [evaluate, looked]

/-- What a policy decides on a request whose states are read. -/
theorem decideRequest_decision_of_ok {states : States α} {verdict : Verdict}
    (isRead : States.ofRequest policy.decode request = .ok states)
    (concluded : (policy.decide request states cluster).result = .ok verdict) :
    (policy.decideRequest request cluster).decision = verdict.decision := by
  simp only [decideRequest, isRead, concluded]

/-- A policy that does not fail on a request has read its states and come to a verdict. -/
theorem exists_verdict_of_ne_error
    (noError : ∀ code cause, (policy.decideRequest request cluster).decision ≠ .error code cause) :
    ∃ states verdict, States.ofRequest policy.decode request = .ok states ∧
      (policy.decide request states cluster).result = .ok verdict ∧
      (policy.decideRequest request cluster).decision = verdict.decision := by
  unfold decideRequest at noError
  cases isRead : States.ofRequest policy.decode request with
  | error failure =>
      simp only [isRead] at noError
      exact absurd rfl (noError badRequestCode (.decode failure))
  | ok states =>
      cases concluded : (policy.decide request states cluster).result with
      | error failure =>
          simp only [isRead, concluded] at noError
          cases failure <;> exact absurd rfl (noError _ _)
      | ok verdict =>
          exact ⟨states, verdict, rfl, concluded, decideRequest_decision_of_ok isRead concluded⟩

/-- A policy admits a request only by a verdict on the states that it carries. -/
theorem Admits.exists_verdict (admits : policy.Admits cluster request admitted) :
    ∃ states verdict, States.ofRequest policy.decode request = .ok states ∧
      (policy.decide request states cluster).result = .ok verdict ∧
      verdict.decision.carryOut? request = some admitted := by
  obtain ⟨looked, goesOn⟩ := admits
  rw [evaluate_decision_of_looked looked] at goesOn
  have noError (code : Nat) (cause : Failure) :
      (policy.decideRequest request cluster).decision ≠ .error code cause := by
    intro failed
    rw [failed] at goesOn
    cases goesOn
  obtain ⟨states, verdict, isRead, concluded, decided⟩ := exists_verdict_of_ne_error noError
  exact ⟨states, verdict, isRead, concluded, decided ▸ goesOn⟩

/-- A policy patches a request only if it has looked at it, by a verdict on the states that
it carries. -/
theorem exists_states_of_decision_eq_patch {reason : String}
    {operations : List PatchOperation}
    (decided : (policy.evaluate request cluster).decision = .patch reason operations) :
    (policy.skipper.skip request cluster).result = .ok false ∧
      ∃ states, States.ofRequest policy.decode request = .ok states ∧
        (policy.decide request states cluster).result = .ok (.patch reason operations) := by
  have looked : (policy.skipper.skip request cluster).result = .ok false := by
    unfold evaluate at decided
    cases result : (policy.skipper.skip request cluster).result with
    | error failure => simp [result, Decision.internal] at decided
    | ok skips =>
        cases skips with
        | true => simp [result, Decision.skipped] at decided
        | false => rfl
  rw [evaluate_decision_of_looked looked] at decided
  have noError (code : Nat) (cause : Failure) :
      (policy.decideRequest request cluster).decision ≠ .error code cause := by
    rw [decided]
    exact Decision.noConfusion
  obtain ⟨states, verdict, isRead, concluded, isVerdict⟩ := exists_verdict_of_ne_error noError
  rw [decided] at isVerdict
  cases verdict <;> cases isVerdict
  exact ⟨looked, states, isRead, concluded⟩

/-- With another object that is read, a policy whose skipper ignores objects decides by its
verdict on that object. -/
theorem evaluate_decision_withObject (ignores : policy.skipper.IgnoresObject)
    (looked : (policy.skipper.skip request cluster).result = .ok false) {states : States α}
    (isRead : States.ofRequest policy.decode request = .ok states) {changed : Json} {new : α}
    (changedRead : policy.decode changed = some new) {verdict : Verdict}
    (concluded : (policy.decide { request with object := some changed } ⟨states.old, some new⟩
      cluster).result = .ok verdict) :
    (policy.evaluate { request with object := some changed } cluster).decision =
      verdict.decision := by
  rw [← ignores request (some changed)] at looked
  rw [evaluate_decision_of_looked looked]
  exact decideRequest_decision_of_ok (States.ofRequest_withObject isRead changedRead) concluded

/-- A request goes on with its operation. -/
theorem Admits.operation_eq (admits : policy.Admits cluster request admitted) :
    admitted.operation = request.operation := by
  have goesOn := admits.goesOn
  unfold Decision.carryOut? at goesOn
  split at goesOn
  · cases goesOn
    rfl
  · obtain ⟨changed, _, rfl⟩ := Option.map_eq_some_iff.mp goesOn
    rfl
  · cases goesOn
  · cases goesOn

end Policy

end Tenancy
