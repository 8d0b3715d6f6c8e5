import Tenancy.Cluster.Manifest
import Tenancy.Json.Reader
import Tenancy.Request

/-!
# Admission reviews

The API server asks for a review of every request before it goes ahead.  A review
names its own type and carries a request; what it does not say about the type of
an object is known from the kind that the request is about.
-/

namespace Tenancy

/-- What a reviewed request does: an operation on an object, or a connection to
one. -/
inductive ReviewAction where
  | operation (operation : Operation)
  | connect
  deriving Repr, DecidableEq

/-- A kind of object in a version of a group. -/
structure GroupVersionKind where
  group : String
  version : String
  kind : String
  deriving Repr, DecidableEq, Inhabited

/-- The name of the type of a kind; the core group has no name. -/
def GroupVersionKind.typeName (kind : GroupVersionKind) : TypeName :=
  ⟨if kind.group = "" then kind.version else kind.group ++ "/" ++ kind.version, kind.kind⟩

/-- A request under review. -/
structure ReviewRequest where
  uid : String
  kind : GroupVersionKind
  name : String
  namespaceName : Option String
  action : ReviewAction
  caller : Caller
  oldObject : Option Manifest
  object : Option Manifest
  deriving Repr

/-- A review. -/
structure Review where
  typeName : TypeName
  request : Option ReviewRequest
  deriving Repr

/-! ## Reading a review

A field that is known may be given once, and fields that are not known do not
count.
-/

/-- The members of a record: those of an object, or the elements of an array in the order of
the names that are known.  So many of the names as are asked for have to be given there. -/
def Json.record? (names : List String) (least : Nat) : Json → Option (List (String × Json))
  | .object members => if Json.hasDistinct names members then some members else none
  | .array elements =>
      if least ≤ elements.length && elements.length ≤ names.length then some (names.zip elements)
      else none
  | _ => none

/-- The name of a value without contents: a text, or an object with nothing but a null of that
name. -/
def Json.unitName? : Json → Option String
  | .text name => some name
  | .object [(name, .null)] => some name
  | _ => none

/-- Read a record of three texts. -/
def Json.texts3? (first second third : String) (json : Json) :
    Option (String × String × String) := do
  let members ← json.record? [first, second, third] 3
  let firstText ← Json.required Json.text? members first
  let secondText ← Json.required Json.text? members second
  let thirdText ← Json.required Json.text? members third
  return (firstText, secondText, thirdText)

/-- Read a kind. -/
def GroupVersionKind.ofJson? (json : Json) : Option GroupVersionKind :=
  (Json.texts3? "group" "version" "kind" json).map fun (group, version, kind) =>
    ⟨group, version, kind⟩

/-- Read the name of a resource. -/
def Resource.nameOfJson? (json : Json) : Option (String × String × String) :=
  Json.texts3? "group" "version" "resource" json

/-- What is said of a caller.  A part that is given more than once has its form every time. -/
def Caller.forms : List (String × Normaliser) :=
  Normaliser.each .text ["uid", "username"] ++
    [("extra", .mapOf (.listOf .text)), ("groups", .listOf .text)]

/-- Read a caller. -/
def Caller.ofJson? (json : Json) : Option Caller := do
  let members ← json.object?
  guard (Normaliser.accepts Caller.forms members)
  let username ← Json.optional Json.text? members "username"
  let groups ← Json.optional (Json.listOf? Json.text?) members "groups"
  return ⟨username.getD "", groups.getD []⟩

/-- The action with a name. -/
def ReviewAction.ofName? (name : String) : Option ReviewAction :=
  match name with
  | "CREATE" => some (.operation .create)
  | "UPDATE" => some (.operation .update)
  | "DELETE" => some (.operation .delete)
  | "CONNECT" => some .connect
  | _ => none

/-- Read an action. -/
def ReviewAction.ofJson? (json : Json) : Option ReviewAction := json.unitName?.bind ofName?

/-- The fields of a request under review. -/
def ReviewRequest.fieldNames : List String :=
  ["uid", "kind", "resource", "subResource", "requestKind", "requestResource",
    "requestSubResource", "name", "namespace", "operation", "userInfo", "object", "oldObject",
    "dryRun", "options"]

/-- Read a request under review. -/
def ReviewRequest.ofJson? (json : Json) : Option ReviewRequest := do
  let members ← json.record? ReviewRequest.fieldNames ReviewRequest.fieldNames.length
  let uid ← Json.required Json.text? members "uid"
  let kind ← Json.required GroupVersionKind.ofJson? members "kind"
  let _ ← Json.required Resource.nameOfJson? members "resource"
  let _ ← Json.optional Json.text? members "subResource"
  let _ ← Json.optional GroupVersionKind.ofJson? members "requestKind"
  let _ ← Json.optional Resource.nameOfJson? members "requestResource"
  let _ ← Json.optional Json.text? members "requestSubResource"
  let name ← Json.defaulted Json.text? members "name" ""
  let namespaceName ← Json.optional Json.text? members "namespace"
  let action ← Json.required ReviewAction.ofJson? members "operation"
  let caller ← Json.required Caller.ofJson? members "userInfo"
  let object ← Json.optional Manifest.ofJson? members "object"
  let oldObject ← Json.optional Manifest.ofJson? members "oldObject"
  let _ ← Json.defaulted Json.bool? members "dryRun" false
  let _ ← Json.optional Manifest.ofJson? members "options"
  return { uid, kind, name, namespaceName, action, caller, oldObject, object }

/-! A review may also carry the answer to it, which is read and not kept. -/

/-- Read texts of which each may be absent but not null. -/
def Json.defaultedTexts? (names : List String) (members : List (String × Json)) :
    Option (List String) :=
  names.mapM fun name => Json.defaulted Json.text? members name ""

namespace ReviewAnswer

/-- Read one of the causes in the details of a status. -/
def cause? (json : Json) : Option Unit := do
  let members ← json.record? ["reason", "message", "field"] 0
  let _ ← Json.defaultedTexts? ["reason", "message", "field"] members

/-- Read the details of a status. -/
def details? (json : Json) : Option Unit := do
  let members ← json.record? ["name", "group", "kind", "uid", "causes", "retryAfterSeconds"] 0
  let _ ← Json.defaultedTexts? ["name", "group", "kind", "uid"] members
  let _ ← Json.defaulted (Json.listOf? cause?) members "causes" []
  let _ ← Json.defaulted (Json.unsigned? 32) members "retryAfterSeconds" 0

/-- Read one of some names. -/
def oneOf? (names : List String) (json : Json) : Option String :=
  json.unitName?.filter names.contains

/-- Read a status. -/
def status? (json : Json) : Option Unit := do
  let members ← json.record? ["status", "code", "message", "reason", "details"] 0
  let _ ← Json.optional (oneOf? ["Success", "Failure"]) members "status"
  let _ ← Json.defaulted (Json.unsigned? 16) members "code" 0
  let _ ← Json.defaultedTexts? ["message", "reason"] members
  let _ ← Json.optional details? members "details"

/-- The fields of an answer. -/
def fieldNames : List String :=
  ["uid", "allowed", "status", "patch", "patchType", "auditAnnotations", "warnings"]

/-- Read an answer. -/
def ofJson? (json : Json) : Option Unit := do
  let members ← json.record? fieldNames fieldNames.length
  let _ ← Json.required Json.text? members "uid"
  let _ ← Json.required Json.bool? members "allowed"
  let _ ← Json.required status? members "status"
  let _ ← Json.optional (Json.listOf? (Json.unsigned? 8)) members "patch"
  let _ ← Json.optional (oneOf? ["JSONPatch"]) members "patchType"
  let _ ← Json.defaulted Json.textMap? members "auditAnnotations" .empty
  let _ ← Json.optional (Json.listOf? Json.text?) members "warnings"

end ReviewAnswer

/-- Read a review. -/
def Review.ofJson? (json : Json) : Option Review := do
  let members ← json.object?
  guard (Json.hasDistinct ["apiVersion", "kind", "request", "response"] members)
  let apiVersion ← Json.required Json.text? members "apiVersion"
  let kind ← Json.required Json.text? members "kind"
  let request ← Json.optional ReviewRequest.ofJson? members "request"
  let _ ← Json.optional ReviewAnswer.ofJson? members "response"
  return ⟨⟨apiVersion, kind⟩, request⟩

/-- Read a review from a text. -/
def Review.parse? (text : String) : Option Review := (Json.parse? text).bind Review.ofJson?

namespace ReviewRequest

/-- The kind of objects that are namespaces themselves. -/
def namespaceKind : String := "Namespace"

/-- The namespace that a request is about: the one that is given, or for a
namespace the namespace itself. -/
def namespaceOf (review : ReviewRequest) : String :=
  match review.namespaceName with
  | some namespaceName => namespaceName
  | none => if review.kind.kind = namespaceKind then review.name else ""

/-- The request that policies decide on; there is none for a connection. -/
def request? (review : ReviewRequest) : Option Request :=
  match review.action with
  | .connect => none
  | .operation operation =>
      some {
        caller := review.caller
        namespaceName := review.namespaceOf
        name := review.name
        kind := review.kind.kind
        operation := operation
        oldObject := review.oldObject.map (·.toJson review.kind.typeName)
        object := review.object.map (·.toJson review.kind.typeName) }

end ReviewRequest

end Tenancy
