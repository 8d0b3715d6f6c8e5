import Tenancy.Policy.Basic

/-!
# Events

Every decision is recorded as an event with a level and named fields.
-/

namespace Tenancy

/-- How much an event matters. -/
inductive Event.Level where
  | debug
  | info
  | warn
  deriving Repr, DecidableEq

/-- The name of a level. -/
def Event.Level.name : Event.Level → String
  | .debug => "DEBUG"
  | .info => "INFO"
  | .warn => "WARN"

/-- A record of a decision. -/
structure Event where
  level : Event.Level
  fields : List (String × Json)
  deriving Repr

/-- The level of a decision. -/
def Decision.level : Decision → Event.Level
  | .allow .. => .debug
  | .deny .. => .info
  | .patch .. => .info
  | .error .. => .warn

/-- The fields that tell what was decided, and why. -/
def Decision.fields : Decision → List (String × Json)
  | .allow reason warnings => [("reason", .text reason), ("warnings", .ofInt warnings.length)]
  | .deny reason => [("reason", .text reason)]
  | .patch reason _ => [("reason", .text reason)]
  | .error code cause => [("code", .ofInt code), ("error", .text cause.chain)]

/-- The event of a decision of a policy on a request. -/
def Event.ofDecision (policy : String) (request : Request) (decision : Decision) : Event :=
  ⟨decision.level,
    [("policy", .text policy), ("user", .text request.caller.username),
      ("ns", .text request.namespaceName), ("name", .text request.name),
      ("kind", .text request.kind), ("operation", .text request.operation.name),
      ("verdict", .text decision.verdict)] ++ decision.fields⟩

end Tenancy
