import Tenancy.Bypass
import Tenancy.Decision

/-!
# Policies

A policy reads the object of a request and comes to a verdict, unless its skipper
lets the request pass.  Whatever fails on the way ends in an error, and only what
the caller got wrong is reported as the caller's fault.
-/

namespace Tenancy

/-- A policy on objects of a type. -/
structure Policy (α : Type) where
  name : String
  skipper : Skipper
  decode : Json → Option α
  decide : Request → States α → Lookup Verdict

/-- A decision with the questions that were put to come to it. -/
structure Evaluation where
  calls : List Call
  decision : Decision
  deriving Repr, Inhabited

/-- The decision when a policy fails to come to a verdict: what the caller has to
mend is told apart from what is not theirs. -/
def Failure.decision : Failure → Decision
  | .decode failure => .badRequest (.decode failure)
  | failure => .internal failure

/-- What was attempted when a skipper fails. -/
def skipActivity : String := "failed to evaluate skip"

namespace Policy

variable {α : Type}

/-- Decide on a request that is not skipped. -/
def decideRequest (policy : Policy α) (request : Request) (cluster : Cluster) : Evaluation :=
  match States.ofRequest policy.decode request with
  | .error failure => ⟨[], .badRequest (.decode failure)⟩
  | .ok states =>
      let outcome := policy.decide request states cluster
      match outcome.result with
      | .ok verdict => ⟨outcome.calls, verdict.decision⟩
      | .error failure => ⟨outcome.calls, failure.decision⟩

/-- Evaluate a policy on a request. -/
def evaluate (policy : Policy α) (request : Request) (cluster : Cluster) : Evaluation :=
  let outcome := policy.skipper.skip request cluster
  match outcome.result with
  | .error failure => ⟨outcome.calls, .internal (.during skipActivity failure)⟩
  | .ok true => ⟨outcome.calls, .skipped⟩
  | .ok false =>
      let evaluation := policy.decideRequest request cluster
      ⟨outcome.calls ++ evaluation.calls, evaluation.decision⟩

end Policy

/-- A policy on objects of some type. -/
structure Handler where
  name : String
  evaluate : Request → Cluster → Evaluation

/-- The handler of a policy. -/
def Policy.handler {α : Type} (policy : Policy α) : Handler := ⟨policy.name, policy.evaluate⟩

end Tenancy
