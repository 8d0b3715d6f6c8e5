import Tenancy.Cluster.Lookup
import Tenancy.Cluster.Manifest
import Tenancy.Json.Reader

/-!
# The API server

A cluster is read through its API server: a question becomes a request for a
path, and the answer is a status with a text.  An answer that is late, that is an
error or that does not have the expected form is a failure; only an object that
is reported as not found is no object.
-/

namespace Tenancy

/-- A request for a path with parameters, which are written as they are sent. -/
structure ApiRequest where
  path : String
  query : List String
  deriving Repr, DecidableEq

/-- What comes back for a request. -/
inductive ApiAnswer where
  | response (status : Nat) (body : String)
  | silence
  deriving Repr, DecidableEq

/-- An API server. -/
abbrev ApiServer := ApiRequest → ApiAnswer

namespace ApiRequest

/-! ## Writing targets -/

/-- Whether a byte stands for itself in a parameter. -/
def isPlainByte (byte : UInt8) : Bool :=
  let char := Char.ofNat byte.toNat
  byte < 0x80 && (char.isAlphanum || ['*', '-', '.', '_'].contains char)

/-- A hexadecimal digit in upper case. -/
def upperDigit (value : Nat) : Char := (Nat.digitChar value).toUpper

/-- Write a byte of a parameter. -/
def encodeByte (byte : UInt8) : List Char :=
  if byte == 0x20 then ['+']
  else if isPlainByte byte then [Char.ofNat byte.toNat]
  else ['%', upperDigit (byte.toNat / 16), upperDigit (byte.toNat % 16)]

/-- Write a parameter in the form of an HTML form. -/
def encode (text : String) : List Char := text.toUTF8.toList.flatMap encodeByte

/-- The path of the objects of a resource. -/
def collectionPath (resource : Resource) (namespaceName : Option String) : String :=
  (if resource.group = "" then "/api/" else "/apis/") ++ resource.apiVersion ++ "/" ++
    (match namespaceName with
      | some namespaceName => "namespaces/" ++ namespaceName ++ "/"
      | none => "") ++
    resource.plural

/-- Whether a character may stand in the path of a target. -/
def isPathChar (char : Char) : Bool :=
  let code := char.toNat
  0x21 ≤ code && !(['#', '<', '>', '?', '\x60'].contains char)

/-- Whether a character may stand in the parameters of a target. -/
def isQueryChar (char : Char) : Bool :=
  let code := char.toNat
  0x21 ≤ code && !(['#', '<', '>'].contains char)

/-- The request for a target, which ends before a fragment and has parameters
behind a question mark. -/
def ofTarget? (target : List Char) : Option ApiRequest :=
  let target := target.takeWhile (· != '#')
  let path := target.takeWhile (· != '?')
  let query := (target.dropWhile (· != '?')).drop 1
  if path.all isPathChar && query.all isQueryChar then
    some ⟨String.ofList path,
      ((String.ofList query).splitOn "&").filter (· ≠ "")⟩
  else none

/-- The request for an object, whose name may not be empty. -/
def ofGet? (resource : Resource) (namespaceName : Option String) (name : String) :
    Option ApiRequest :=
  if name = "" then none
  else ofTarget? (collectionPath resource namespaceName ++ "/" ++ name).toList

/-- The request for a list of objects. -/
def ofList? (resource : Resource) (namespaceName selector : Option String) :
    Option ApiRequest :=
  let parameters := match selector with
    | some selector => "labelSelector=".toList ++ encode selector
    | none => []
  ofTarget? ((collectionPath resource namespaceName).toList ++ '?' :: parameters)

/-- The request that a question becomes, if it can be put at all. -/
def ofCall? : Call → Option ApiRequest
  | .get resource namespaceName name => ofGet? resource namespaceName name
  | .list resource namespaceName selector => ofList? resource namespaceName selector
  | .roleBindings namespaceName => ofList? Resource.roleBinding namespaceName none
  | .clusterRoleBindings => ofList? Resource.clusterRoleBinding none none
  | .check _ => none

end ApiRequest

namespace ApiServer

/-! ## Reading answers -/

/-- The description of an answer that is no use. -/
def unusableAnswer : String := "unusable answer"

/-- The description of an answer that is late. -/
def lateAnswer : String := "deadline has elapsed"

/-- Why an answer is not the value asked for. -/
inductive Fault where
  | late
  | notFound
  | unusable
  deriving Repr, DecidableEq

/-- The description of a fault. -/
def Fault.message : Fault → String
  | .late => lateAnswer
  | .notFound => unusableAnswer
  | .unusable => unusableAnswer

/-- The reason of an object that does not exist. -/
def notFoundReason : String := "NotFound"

/-- Whether an error says that an object does not exist. -/
def isNotFound (body : String) : Bool :=
  let reason := do
    let members ← (← Json.parse? body).object?
    guard (Json.hasDistinct ["status", "message", "reason", "code"] members)
    let _ ← Json.required Json.text? members "status"
    let _ ← Json.required (Json.unsigned? 16) members "code"
    let _ ← Json.defaulted Json.text? members "message" ""
    Json.defaulted Json.text? members "reason" ""
  reason == some notFoundReason

/-- Put a request, if there is one, and read the answer. -/
def fetch {α : Type} (server : ApiServer) (request : Option ApiRequest)
    (decode : Json → Option α) : Except Fault α :=
  match request.map server with
  | none => .error .unusable
  | some .silence => .error .late
  | some (.response status body) =>
      if 400 ≤ status && status < 600 then
        .error (if isNotFound body then .notFound else .unusable)
      else
        match (Json.parse? body).bind decode with
        | some value => .ok value
        | none => .error .unusable

/-- Report a fault about an object or a list of objects. -/
def report {α : Type} (resource : Resource) (key : String) :
    Except Fault α → Except FetchFailure α
  | .ok value => .ok value
  | .error fault => .error (.unavailable resource.kind key fault.message)

/-- Read the metadata of a list. -/
def listMetadata? (json : Json) : Option Unit := do
  let members ← json.object?
  let _ ← Json.optional Json.text? members "continue"
  let _ ← Json.optional (Json.signed? 64) members "remainingItemCount"
  let _ ← Json.optional Json.text? members "resourceVersion"
  let _ ← Json.optional Json.text? members "selfLink"

/-- Read a list of objects. -/
def items? {α : Type} (decode : Json → Option α) (json : Json) : Option (List α) := do
  let members ← json.object?
  guard (Json.hasDistinct ["metadata", "items"] members)
  let _ ← Json.defaulted listMetadata? members "metadata" ()
  Json.required (Json.listOf? decode) members "items"

/-- Read an object of a resource, which need not say its type. -/
def object? (resource : Resource) (json : Json) : Option Json :=
  (Manifest.ofJson? json).map (·.toJson resource.typeName)

/-- Look an object up. -/
def get (server : ApiServer) (resource : Resource) (namespaceName : Option String)
    (name : String) : Except FetchFailure (Option Json) :=
  report resource (objectKey namespaceName name) <|
    match server.fetch (ApiRequest.ofGet? resource namespaceName name) (object? resource) with
    | .ok object => .ok (some object)
    | .error .notFound => .ok none
    | .error fault => .error fault

/-- List what a resource holds. -/
def list {α : Type} (server : ApiServer) (resource : Resource)
    (namespaceName selector : Option String) (decode : Json → Option α) :
    Except FetchFailure (List α) :=
  report resource (objectKey namespaceName everyName) <|
    server.fetch (ApiRequest.ofList? resource namespaceName selector) (items? decode)

/-- The cluster behind an API server. -/
def toCluster (server : ApiServer) : Cluster where
  get := server.get
  list resource namespaceName selector :=
    server.list resource namespaceName selector (object? resource)
  roleBindings namespaceName :=
    server.list Resource.roleBinding namespaceName none
      (RoleBinding.ofJson? Resource.roleBinding)
  clusterRoleBindings :=
    server.list Resource.clusterRoleBinding none none
      (RoleBinding.ofJson? Resource.clusterRoleBinding)

end ApiServer

end Tenancy
