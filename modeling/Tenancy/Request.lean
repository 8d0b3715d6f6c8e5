import Tenancy.Failure
import Tenancy.Json.Value

/-!
# Requests

A request to create, update or delete an object, with the caller who makes it and
the states of the object before and after.
-/

namespace Tenancy

/-- Someone who makes a request, with the groups that they are in. -/
structure Caller where
  username : String
  groups : List String
  deriving Repr, DecidableEq, Inhabited

/-- Whether a caller is in a group. -/
def Caller.isMemberOf (caller : Caller) (group : String) : Bool := caller.groups.contains group

/-- What a request does to its object. -/
inductive Operation where
  | create
  | update
  | delete
  deriving Repr, DecidableEq, Inhabited

namespace Operation

/-- The name of an operation. -/
def name : Operation → String
  | .create => "CREATE"
  | .update => "UPDATE"
  | .delete => "DELETE"

/-- What has been done when an operation is over. -/
def pastTense : Operation → String
  | .create => "created"
  | .update => "updated"
  | .delete => "deleted"

end Operation

/-- A request.  The namespace is the one that the object lives in; for a namespace
it is the namespace itself. -/
structure Request where
  caller : Caller
  namespaceName : String
  name : String
  kind : String
  operation : Operation
  oldObject : Option Json
  object : Option Json
  deriving Repr, Inhabited

/-- The states of the object of a request. -/
structure States (α : Type) where
  old : Option α
  new : Option α
  deriving Repr, DecidableEq

namespace States

variable {α : Type}

/-- The new state, or the old one if there is no new one. -/
def current (states : States α) : Option α := states.new <|> states.old

/-- Read a state that may be absent. -/
def decodeField (decode : Json → Option α) (field : String) :
    Option Json → Except DecodeFailure (Option α)
  | none => .ok none
  | some json =>
      match decode json with
      | some object => .ok (some object)
      | none => .error (.malformed field)

/-- Read the states of the object of a request, the new one first.  One of them
has to be there. -/
def ofRequest (decode : Json → Option α) (request : Request) :
    Except DecodeFailure (States α) := do
  let new ← decodeField decode "object" request.object
  let old ← decodeField decode "oldObject" request.oldObject
  if new.isNone && old.isNone then .error .missingObject
  else return ⟨old, new⟩

end States

end Tenancy
