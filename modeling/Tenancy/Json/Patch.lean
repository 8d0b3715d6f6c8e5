import Tenancy.Json.Pointer
import Tenancy.Json.Value

/-!
# JSON patches

A patch is a list of operations, each of which puts a value at the place that a
pointer names.
-/

namespace Tenancy

/-- One operation of a JSON patch. -/
inductive PatchOperation where
  | add (path : String) (value : Json)
  | replace (path : String) (value : Json)
  deriving Repr, Inhabited

namespace PatchOperation

/-- Add a value at the place with the given segments. -/
def addAt (segments : List String) (value : Json) : PatchOperation :=
  .add (Json.Pointer.ofSegments segments) value

/-- Replace the value at the place with the given segments. -/
def replaceAt (segments : List String) (value : Json) : PatchOperation :=
  .replace (Json.Pointer.ofSegments segments) value

/-- The pointer of an operation. -/
def path : PatchOperation → String
  | .add path _ => path
  | .replace path _ => path

/-- The value of an operation. -/
def value : PatchOperation → Json
  | .add _ value => value
  | .replace _ value => value

/-- The name of what an operation does. -/
def verb : PatchOperation → String
  | .add .. => "add"
  | .replace .. => "replace"

/-- The JSON form of an operation. -/
def toJson (operation : PatchOperation) : Json :=
  .object [("op", .text operation.verb), ("path", .text operation.path),
    ("value", operation.value)]

end PatchOperation

/-- Whether an operation says by a pointer where it puts its value. -/
def PatchOperation.isAddressed (operation : PatchOperation) : Bool :=
  Json.Pointer.isPointer operation.path

/-- The JSON form of a patch. -/
def patchJson (operations : List PatchOperation) : Json :=
  .array (operations.map PatchOperation.toJson)

end Tenancy
