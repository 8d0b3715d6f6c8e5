import Tenancy.SortedMap
import Tenancy.Width

/-!
# JSON values

Documents come and go as JSON.  A number is an integer where it is written as
one that fits in 64 bits, and otherwise a sign and a significand with an exponent
of ten.  The members of an object keep the order in which they are written until
the value is put into its normal form.
-/

namespace Tenancy

/-- A JSON number. -/
inductive JsonNumber where
  | integer (value : Int)
  | real (negative : Bool) (significand : Nat) (exponent : Int)
  deriving Repr, DecidableEq, Inhabited

/-- A JSON value. -/
inductive Json where
  | null
  | bool (value : Bool)
  | number (value : JsonNumber)
  | text (value : String)
  | array (elements : List Json)
  | object (members : List (String × Json))
  deriving Repr, Inhabited

namespace Json

/-- An integer as a JSON value. -/
def ofInt (value : Int) : Json := .number (.integer value)

/-- A text or nothing as a JSON value. -/
def ofText? : Option String → Json
  | some value => .text value
  | none => .null

/-- The object of a map of texts. -/
def ofTextMap (map : SortedMap String) : Json :=
  .object (map.entries.map fun (key, value) => (key, .text value))

/-- Put a member in its place among members in ascending order, over one with
the same name. -/
def setMember (name : String) (value : Json) (members : List (String × Json)) :
    List (String × Json) :=
  SortedMap.place name value members

mutual

/-- The value with the members of every object in ascending order of their
names; of members with one name the last counts. -/
def normal : Json → Json
  | .array elements => .array (normalElements elements)
  | .object members => .object (normalMembers members [])
  | value => value

/-- The normal forms of some values. -/
def normalElements : List Json → List Json
  | [] => []
  | value :: rest => normal value :: normalElements rest

/-- Put the normal forms of members among the ones that are there. -/
def normalMembers : List (String × Json) → List (String × Json) → List (String × Json)
  | [], placed => placed
  | (name, value) :: rest, placed =>
      normalMembers rest (setMember name (normal value) placed)

end

/-! ## Reading parts of a value

Each of these gives nothing where the value does not have the form asked for.
-/

/-- The text of a text. -/
def text? : Json → Option String
  | .text value => some value
  | _ => none

/-- The members of an object. -/
def object? : Json → Option (List (String × Json))
  | .object members => some members
  | _ => none

/-- The elements of an array. -/
def array? : Json → Option (List Json)
  | .array elements => some elements
  | _ => none

/-- A truth value. -/
def bool? : Json → Option Bool
  | .bool value => some value
  | _ => none

/-- An integer. -/
def integer? : Json → Option Int
  | .number (.integer value) => some value
  | _ => none

/-- An integer that fits in some bits that have no sign. -/
def unsigned? (bits : Nat) (json : Json) : Option Int :=
  json.integer?.filter (Width.fitsUnsigned bits)

/-- An integer that fits in some bits, one of which is its sign. -/
def signed? (bits : Nat) (json : Json) : Option Int :=
  json.integer?.filter (Width.fitsSigned bits)

/-- The last member with a name. -/
def find? (members : List (String × Json)) (name : String) : Option Json :=
  (members.reverse.find? (·.1 == name)).map (·.2)

/-- The member of an object with a name. -/
def member? (json : Json) (name : String) : Option Json :=
  json.object?.bind (find? · name)

/-- Read a member that may be absent or null. -/
def optional {α : Type} (decode : Json → Option α) (members : List (String × Json))
    (name : String) : Option (Option α) :=
  match find? members name with
  | none => some none
  | some .null => some none
  | some value => (decode value).map some

/-- Read a member that has to be there. -/
def required {α : Type} (decode : Json → Option α) (members : List (String × Json))
    (name : String) : Option α :=
  (find? members name).bind decode

/-- Read a member that may be absent but not null. -/
def defaulted {α : Type} (decode : Json → Option α) (members : List (String × Json))
    (name : String) (default : α) : Option α :=
  match find? members name with
  | none => some default
  | some value => decode value

/-- Whether none of some names is given to more than one member. -/
def hasDistinct (names : List String) (members : List (String × Json)) : Bool :=
  names.all fun name => members.countP (·.1 == name) ≤ 1

/-- Read every element of an array. -/
def listOf? {α : Type} (decode : Json → Option α) (json : Json) : Option (List α) :=
  json.array?.bind fun elements => elements.mapM decode

/-- Read an object whose members have one form as a map. -/
def mapOf? {α : Type} (decode : Json → Option α) (json : Json) : Option (SortedMap α) := do
  let members ← json.object?
  let entries ← members.mapM fun (name, value) => (decode value).map fun read => (name, read)
  return SortedMap.ofList entries

/-- Read an object of texts. -/
def textMap? (json : Json) : Option (SortedMap String) := mapOf? text? json

end Json

end Tenancy
