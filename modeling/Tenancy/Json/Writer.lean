import Tenancy.Json.Double
import Tenancy.Json.Value

/-!
# Writing JSON text

The compact text of a value: no blanks between its parts, members in their
order, and escapes only where a character cannot stand as it is.
-/

namespace Tenancy.Json

namespace Writer

/-- The escapes that have a letter of their own. -/
def namedEscapes : List (Char × Char) :=
  [('"', '"'), ('\\', '\\'), ('\x08', 'b'), ('\x0c', 'f'), ('\n', 'n'), ('\r', 'r'),
    ('\t', 't')]

/-- Write one character of a text. -/
def charText (char : Char) : List Char :=
  match namedEscapes.lookup char with
  | some letter => ['\\', letter]
  | none =>
    if char.toNat < 0x20 then
      ['\\', 'u', '0', '0', Nat.digitChar (char.toNat / 16), Nat.digitChar (char.toNat % 16)]
    else [char]

/-- Write a text between quotes. -/
def quote (text : String) : String :=
  String.ofList ('"' :: text.toList.flatMap charText ++ ['"'])

/-- Write a number. -/
def numberText : JsonNumber → String
  | .integer value => toString value
  | .real negative significand exponent => Double.text negative significand exponent

end Writer

mutual

/-- Write a value. -/
def render : Json → String
  | .null => "null"
  | .bool value => if value then "true" else "false"
  | .number value => Writer.numberText value
  | .text value => Writer.quote value
  | .array [] => "[]"
  | .array (first :: rest) => "[" ++ render first ++ renderElements rest
  | .object [] => "\x7b\x7d"
  | .object ((name, value) :: rest) =>
      "\x7b" ++ Writer.quote name ++ ":" ++ render value ++ renderMembers rest

/-- Write the elements behind the first one and the closing bracket. -/
def renderElements : List Json → String
  | [] => "]"
  | value :: rest => "," ++ render value ++ renderElements rest

/-- Write the members behind the first one and the closing brace. -/
def renderMembers : List (String × Json) → String
  | [] => "\x7d"
  | (name, value) :: rest =>
      "," ++ Writer.quote name ++ ":" ++ render value ++ renderMembers rest

end

/-- The bytes of the text of a value. -/
def renderBytes (json : Json) : List UInt8 := json.render.toUTF8.toList

end Tenancy.Json
