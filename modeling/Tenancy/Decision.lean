import Tenancy.Failure
import Tenancy.Json.Patch

/-!
# Decisions

What is decided about a request.  A policy comes to a verdict; a decision is a
verdict or the failure to come to one.
-/

namespace Tenancy

/-- What a policy concludes. -/
inductive Verdict where
  | allow (reason : String) (warnings : List String)
  | deny (reason : String)
  | patch (reason : String) (operations : List PatchOperation)
  deriving Repr, Inhabited

/-- What is decided about a request. -/
inductive Decision where
  | allow (reason : String) (warnings : List String)
  | deny (reason : String)
  | patch (reason : String) (operations : List PatchOperation)
  | error (code : Nat) (cause : Failure)
  deriving Repr, Inhabited

namespace Verdict

/-- Allow a request without a warning. -/
def allowed (reason : String) : Verdict := .allow reason []

/-- Allow a request with a warning. -/
def warned (reason warning : String) : Verdict := .allow reason [warning]

/-- Allow a request with changes to its object; without any it is just allowed. -/
def patched (reason : String) (operations : List PatchOperation) : Verdict :=
  if operations.isEmpty then .allow reason [] else .patch reason operations

/-- Allow a request unless something failed in checking it. -/
def ofReport {ε : Type} [Described ε] (reason : String) (report : Report ε) : Verdict :=
  if report.isEmpty then allowed reason else .deny report.message

/-- The decision that a verdict amounts to. -/
def decision : Verdict → Decision
  | .allow reason warnings => .allow reason warnings
  | .deny reason => .deny reason
  | .patch reason operations => .patch reason operations

end Verdict

/-- The code of a request that the caller has to mend. -/
def badRequestCode : Nat := 400

/-- The code of a failure that is not the caller's. -/
def internalCode : Nat := 500

namespace Decision

/-- The decision on a request that a policy does not look at. -/
def skipped : Decision := .allow "skipped" []

/-- The decision on a request that cannot be decided on. -/
def badRequest (cause : Failure) : Decision := .error badRequestCode cause

/-- The decision when deciding failed. -/
def internal (cause : Failure) : Decision := .error internalCode cause

/-- The word for a decision. -/
def verdict : Decision → String
  | .allow .. => "allow"
  | .deny .. => "deny"
  | .patch .. => "patch"
  | .error .. => "error"

/-- Whether the request goes ahead. -/
def isAllowed : Decision → Bool
  | .allow .. => true
  | .patch .. => true
  | _ => false

/-- A decision in one line. -/
def summary : Decision → String
  | .allow reason _ => "allowed: " ++ reason
  | .deny reason => "denied: " ++ reason
  | .patch reason operations =>
      "patched (" ++ toString operations.length ++ " ops): " ++ reason
  | .error code cause => "error " ++ toString code ++ ": " ++ cause.message

end Decision

end Tenancy
