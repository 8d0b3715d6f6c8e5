import Tenancy.Cluster.Metadata

/-!
# Manifests

A manifest is an object of any kind as it is sent and stored.  Its metadata have a
fixed form, it may leave out what type it has, and all else is kept as it is.
-/

namespace Tenancy

/-- The type that an object says it has. -/
structure TypeName where
  apiVersion : String
  kind : String
  deriving Repr, DecidableEq, Inhabited

/-- An object of any kind. -/
structure Manifest where
  typeName : Option TypeName
  metadata : Json
  /-- All other members. -/
  content : List (String × Json)
  deriving Repr, Inhabited

namespace Manifest

/-- What has been seen of the type of an object. -/
structure SeenType where
  apiVersion : Option String
  kind : Option String

/-- Set the part of a type that a member gives, if it is a text and the part is
not given yet. -/
def SeenType.set? (seen : SeenType) (name : String) (value : Json) : Option SeenType :=
  match name, value, seen with
  | "apiVersion", .text apiVersion, ⟨none, kind⟩ => some ⟨some apiVersion, kind⟩
  | "kind", .text kind, ⟨apiVersion, none⟩ => some ⟨apiVersion, some kind⟩
  | _, _, _ => none

/-- Whether a member belongs to the type of an object. -/
def isTypeMember (name : String) : Bool := name == "apiVersion" || name == "kind"

/-- Take the type of an object out of its members.  It counts only if both parts
are there; a part that cannot be read ends the search and is dropped, and the
members behind it are kept. -/
def takeType : SeenType → List (String × Json) → Option TypeName × List (String × Json)
  | ⟨some apiVersion, some kind⟩, [] => (some ⟨apiVersion, kind⟩, [])
  | _, [] => (none, [])
  | seen, (name, value) :: rest =>
      if isTypeMember name then
        match seen.set? name value with
        | some seen => takeType seen rest
        | none => (none, rest)
      else
        let (typeName, rest) := takeType seen rest
        (typeName, (name, value) :: rest)

/-- Read an object of any kind. -/
def ofJson? (json : Json) : Option Manifest := do
  let members ← json.object?
  let own := members.filter fun (name, _) => name == "metadata"
  guard (own.length ≤ 1)
  let metadata ← match own with
    | (_, value) :: _ => Metadata.normaliser value
    | [] => some (.object [])
  let (typeName, content) :=
    takeType ⟨none, none⟩ (members.filter fun (name, _) => name != "metadata")
  return ⟨typeName, metadata, content⟩

/-- The object with a type to fall back on. -/
def toJson (fallback : TypeName) (manifest : Manifest) : Json :=
  let typeName := manifest.typeName.getD fallback
  (Json.object <|
    [("apiVersion", .text typeName.apiVersion), ("kind", .text typeName.kind),
      ("metadata", manifest.metadata)] ++ manifest.content).normal

end Manifest

/-- The name of the type of a resource. -/
def Resource.typeName (resource : Resource) : TypeName := ⟨resource.apiVersion, resource.kind⟩

end Tenancy
