import Tenancy.SortedMap
import Tenancy.Width
import Tenancy.Yaml.Node

/-!
# Reading parts of a YAML document

What a document is to hold decides how its scalars are read: the same scalar is a
text where a text is asked for, and a number or nothing elsewhere.  Each reader
gives nothing where a node does not have the form asked for.
-/

namespace Tenancy.Yaml

/-- The words that stand for no value. -/
def nullWords : List String := ["null", "Null", "NULL", "~"]

/-- The tag of no value. -/
def nullTag : String := "tag:yaml.org,2002:null"

/-- The tag of integers. -/
def integerTag : String := "tag:yaml.org,2002:int"

/-- The value of digits, of which there has to be at least one, up to 64 bits. -/
def digits? (radix : Nat) (digits : List Char) : Option Nat := do
  guard (!digits.isEmpty)
  let value ← digits.foldlM (fun value char => do
    let digit ← Text.hexDigit? char
    if digit < radix then some (value * radix + digit) else none) 0
  if Width.fitsUnsigned 64 value then some value else none

/-- The radix that a letter behind a zero stands for. -/
def radix? : Char → Option Nat
  | 'x' => some 16
  | 'o' => some 8
  | 'b' => some 2
  | _ => none

/-- The natural number that a text is: digits with an optional plus in front.  A
zero in front stands alone or before the letter of a radix. -/
def natural? (text : String) : Option Nat :=
  let chars := text.toList
  match if chars.head? == some '+' then chars.drop 1 else chars with
  | '0' :: [] => some 0
  | '0' :: letter :: rest => (radix? letter).bind fun radix => digits? radix rest
  | digits => digits? 10 digits

namespace Node

/-- Whether nothing is written. -/
def isBlank : Node → Bool
  | .scalar found => found.style == .plain && found.text == ""
  | _ => false

/-- The text of a scalar. -/
def text? : Node → Option String
  | .scalar found => some found.text
  | _ => none

/-- The text of a scalar, or none where no value is written. -/
def optionalText? : Node → Option (Option String)
  | .scalar found =>
      let isNull := nullWords.contains found.text
      if found.style ≠ .plain then some (some found.text)
      else if found.tag = some nullTag then if isNull then some none else none
      else if found.tag.isSome then some (some found.text)
      else if isNull || found.text = "" then some none
      else some (some found.text)
  | _ => none

/-- The natural number that a scalar is. -/
def natural? : Node → Option Nat
  | .scalar found =>
      if found.style = .plain || (found.style = .literal && found.tag = some integerTag) then
        Yaml.natural? found.text
      else none
  | _ => none

/-- The entries of a sequence; where nothing is written there are none. -/
def entries? : Node → Option (List Node)
  | .sequence entries => some entries
  | node => if node.isBlank then some [] else none

/-- The members of a mapping whose keys are texts; where nothing is written there
are none. -/
def members? : Node → Option (List (String × Node))
  | .mapping members => members.mapM fun (key, value) => key.text?.map fun name => (name, value)
  | node => if node.isBlank then some [] else none

/-- Read every entry of a sequence. -/
def listOf? {α : Type} (decode : Node → Option α) (node : Node) : Option (List α) :=
  node.entries?.bind fun entries => entries.mapM decode

/-- Read a mapping whose values have one form; of members with one key the last
counts. -/
def mapOf? {α : Type} (decode : Node → Option α) (node : Node) : Option (SortedMap α) := do
  let members ← node.members?
  let entries ← members.mapM fun (name, value) => (decode value).map fun read => (name, read)
  return SortedMap.ofList entries

/-- A mapping of texts. -/
def textMap? (node : Node) : Option (SortedMap String) := mapOf? text? node

/-- Read the member with a name, of which there has to be exactly one. -/
def only? {α : Type} (decode : Node → Option α) (members : List (String × Node))
    (name : String) : Option α :=
  match members.filter (·.1 == name) with
  | [(_, value)] => decode value
  | _ => none

end Node

end Tenancy.Yaml
