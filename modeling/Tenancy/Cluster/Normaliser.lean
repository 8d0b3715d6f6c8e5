import Tenancy.Cluster.Timestamp
import Tenancy.Json.Value

/-!
# Forms of values

What a value has to look like is said by how it is read: a normaliser reads a value
of one form and gives it as it is written back, and nothing where the value does not
have the form.
-/

namespace Tenancy

/-- Reads a value and gives its normal form. -/
abbrev Normaliser := Json → Option Json

namespace Normaliser

/-! ## Single values -/

/-- A text. -/
def text : Normaliser := fun json => json.text?.map Json.text

/-- A truth value. -/
def bool : Normaliser := fun json => json.bool?.map Json.bool

/-- An integer that fits in some bits, one of which is its sign. -/
def integer (bits : Nat) : Normaliser := fun json => (json.signed? bits).map Json.ofInt

/-- An integer of 32 bits or a text. -/
def integerOrText : Normaliser := fun json => integer 32 json <|> text json

/-- Any value. -/
def any : Normaliser := fun json => some json.normal

/-- A point in time. -/
def time : Normaliser := fun json =>
  (json.text?.bind Timestamp.ofText?).map fun time => .text time.text

/-- The digits of the base 64, in the order of their values. -/
def base64Digits : List Char :=
  "ABCDEFGHIJKLMNOPQRSTUVWXYZabcdefghijklmnopqrstuvwxyz0123456789+/".toList

/-- Whether digits of the base 64 make whole bytes: four for every three bytes, and in the
last four a mark for each byte that is not there. -/
def isBase64 : List Char → Bool
  | [] => true
  | [first, second, '=', '='] =>
      base64Digits.contains first && base64Digits.contains second &&
        base64Digits.idxOf second % 16 == 0
  | [first, second, third, '='] =>
      [first, second, third].all base64Digits.contains && base64Digits.idxOf third % 4 == 0
  | first :: second :: third :: fourth :: rest =>
      [first, second, third, fourth].all base64Digits.contains && isBase64 rest
  | _ => false

/-- Bytes in base 64; null stands for none. -/
def bytes : Normaliser
  | .null => some (.text "")
  | json => (json.text?.filter fun value => isBase64 value.toList).map Json.text

/-! ## Composed values -/

/-- A map of texts. -/
def textMap : Normaliser := fun json => json.textMap?.map Json.ofTextMap

/-- A list of values of one form. -/
def listOf (element : Normaliser) : Normaliser := fun json =>
  (json.listOf? element).map Json.array

/-- A map of values of one form. -/
def mapOf (element : Normaliser) : Normaliser := fun json =>
  (json.mapOf? element).map fun map => .object map.entries

/-- Fields of one form. -/
def each (form : Normaliser) (names : List String) : List (String × Normaliser) :=
  names.map fun name => (name, form)

/-- Whether members have the form that is known for their name.  Every field may be absent
or null, and what is not known may be anything. -/
def accepts (known : List (String × Normaliser)) (members : List (String × Json)) : Bool :=
  members.all fun (name, value) =>
    match known.lookup name, value with
    | none, _ => true
    | some _, .null => true
    | some form, value => (form value).isSome

/-- An object with fields that may be absent or null and are left out then.
Other fields are dropped. -/
def fields (known : List (String × Normaliser)) : Normaliser := fun json => do
  let members ← json.object?
  guard (accepts known members)
  return .object <| known.filterMap fun (name, form) =>
    (Json.optional form members name).join.map fun value => (name, value)

/-- Give texts that an object lacks an empty value. -/
def withTexts (names : List String) (normaliser : Normaliser) : Normaliser := fun json => do
  let members ← (← normaliser json).object?
  let absent := names.filter fun name => (Json.find? members name).isNone
  return .object (members ++ absent.map fun name => (name, .text ""))

end Normaliser

end Tenancy
