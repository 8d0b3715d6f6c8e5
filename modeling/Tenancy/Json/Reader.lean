import Tenancy.Json.Value
import Tenancy.Text.Digits
import Tenancy.Width

/-!
# Reading JSON text

`Json.parse?` accepts exactly one JSON value with blanks around it.  Values may be
nested up to a fixed depth, numbers have to be in the range of a double, and
escapes have to denote characters.
-/

namespace Tenancy.Json

namespace Reader

/-- Whether a character may stand between the parts of a value. -/
def isSpace (char : Char) : Bool :=
  char == ' ' || char == '\n' || char == '\t' || char == '\r'

/-- The input from its first character on that is no space. -/
def skipSpace (input : List Char) : List Char := input.dropWhile isSpace

/-- The value of four hexadecimal digits and the input behind them. -/
def hexUnit? : List Char → Option (Nat × List Char)
  | a :: b :: c :: d :: rest => do
      let a ← Text.hexDigit? a
      let b ← Text.hexDigit? b
      let c ← Text.hexDigit? c
      let d ← Text.hexDigit? d
      return (((a * 16 + b) * 16 + c) * 16 + d, rest)
  | _ => none

/-- The character of one unit or of a pair of surrogates. -/
def unitChar? (unit : Nat) (rest : List Char) : Option (Char × List Char) :=
  if 0xD800 ≤ unit && unit ≤ 0xDBFF then
    match rest with
    | '\\' :: 'u' :: rest => do
        let (low, rest) ← hexUnit? rest
        guard (0xDC00 ≤ low && low ≤ 0xDFFF)
        return (Char.ofNat (0x10000 + (unit - 0xD800) * 0x400 + (low - 0xDC00)), rest)
    | _ => none
  else if 0xDC00 ≤ unit && unit ≤ 0xDFFF then none
  else some (Char.ofNat unit, rest)

/-- The character that an escape stands for, read behind the backslash. -/
def escaped? : List Char → Option (Char × List Char)
  | '"' :: rest => some ('"', rest)
  | '\\' :: rest => some ('\\', rest)
  | '/' :: rest => some ('/', rest)
  | 'b' :: rest => some ('\x08', rest)
  | 'f' :: rest => some ('\x0c', rest)
  | 'n' :: rest => some ('\n', rest)
  | 'r' :: rest => some ('\r', rest)
  | 't' :: rest => some ('\t', rest)
  | 'u' :: rest => (hexUnit? rest).bind fun (unit, rest) => unitChar? unit rest
  | _ => none

/-- The characters of a text up to its closing quote, before the ones read so
far in reverse. -/
def textBody? : Nat → List Char → List Char → Option (String × List Char)
  | 0, _, _ => none
  | fuel + 1, input, read =>
      match input with
      | [] => none
      | '"' :: rest => some (String.ofList read.reverse, rest)
      | '\\' :: rest =>
          (escaped? rest).bind fun (char, rest) => textBody? fuel rest (char :: read)
      | char :: rest => if char.toNat < 0x20 then none else textBody? fuel rest (char :: read)

/-- The digits of the integer part: a single zero or digits without one in
front. -/
def wholeDigits? (input : List Char) : Option (List Char × List Char) :=
  match input with
  | '0' :: rest => if (rest.head?.map Char.isDigit).getD false then none else some (['0'], rest)
  | _ =>
    let digits := input.takeWhile Char.isDigit
    if digits.isEmpty then none else some (digits, input.dropWhile Char.isDigit)

/-- The digits behind a point, if there is a point. -/
def fraction? : List Char → Option (Option (List Char) × List Char)
  | '.' :: rest =>
      let digits := rest.takeWhile Char.isDigit
      if digits.isEmpty then none else some (some digits, rest.dropWhile Char.isDigit)
  | rest => some (none, rest)

/-- The exponent, if one is written. -/
def exponent? (input : List Char) : Option (Option Int × List Char) :=
  let unsigned (negative : Bool) (rest : List Char) : Option (Option Int × List Char) :=
    let digits := rest.takeWhile Char.isDigit
    if digits.isEmpty then none
    else
      let value : Int := Text.decimalValue digits 0
      some (some (if negative then -value else value), rest.dropWhile Char.isDigit)
  let signed (rest : List Char) : Option (Option Int × List Char) :=
    match rest with
    | '+' :: rest => unsigned false rest
    | '-' :: rest => unsigned true rest
    | rest => unsigned false rest
  match input with
  | 'e' :: rest => signed rest
  | 'E' :: rest => signed rest
  | rest => some (none, rest)

/-- The middle between the greatest double and the next power of two. -/
def finiteLimit : Nat := Nat.pow 2 1024 - Nat.pow 2 970

/-- Whether a number rounds to a finite double: it is below the limit of those.
The count of its digits settles all but the numbers next to that limit. -/
def isFinite (significand : Nat) (exponent : Int) : Bool :=
  let digits : Int := (Nat.toDigits 10 significand).length
  if significand = 0 || digits + exponent ≤ 308 then true
  else if 310 < digits + exponent then false
  else if exponent < 0 then significand < finiteLimit * Nat.pow 10 exponent.natAbs
  else significand * Nat.pow 10 exponent.toNat < finiteLimit

/-- A number and the input behind it. -/
def number? (input : List Char) : Option (Json × List Char) := do
  let (negative, input) := match input with
    | '-' :: rest => (true, rest)
    | rest => (false, rest)
  let (whole, input) ← wholeDigits? input
  let (fraction, input) ← fraction? input
  let (exponent, input) ← exponent? input
  let digits := fraction.getD []
  let magnitude := Text.decimalValue (whole ++ digits) 0
  let significand : Int := if negative then -(magnitude : Int) else magnitude
  let isInteger := fraction.isNone && exponent.isNone && !(negative && magnitude == 0)
  if isInteger && (Width.fitsSigned 64 significand || Width.fitsUnsigned 64 significand) then
    return (.number (.integer significand), input)
  else
    let exponent := exponent.getD 0 - digits.length
    guard (isFinite magnitude exponent)
    return (.number (.real negative magnitude exponent), input)

/-- The input behind a word that it starts with. -/
def word? (word : String) (input : List Char) : Option (List Char) :=
  if word.toList.isPrefixOf input then some (input.drop word.length) else none

/-- The greatest depth to which arrays and objects may be nested. -/
def depthLimit : Nat := 127

mutual

/-- A value and the input behind it. -/
def value? : Nat → Nat → List Char → Option (Json × List Char)
  | 0, _, _ => none
  | fuel + 1, depth, input =>
      match skipSpace input, depth with
      | '"' :: rest, _ => (textBody? fuel rest []).map fun (value, rest) => (Json.text value, rest)
      | '[' :: rest, depth + 1 =>
          match skipSpace rest with
          | ']' :: rest => some (.array [], rest)
          | rest =>
            (elements? fuel depth rest).map fun (elements, rest) => (.array elements, rest)
      | '\x7b' :: rest, depth + 1 =>
          match skipSpace rest with
          | '\x7d' :: rest => some (.object [], rest)
          | rest => (members? fuel depth rest).map fun (members, rest) => (.object members, rest)
      | 'n' :: rest, _ => (word? "ull" rest).map fun rest => (.null, rest)
      | 't' :: rest, _ => (word? "rue" rest).map fun rest => (.bool true, rest)
      | 'f' :: rest, _ => (word? "alse" rest).map fun rest => (.bool false, rest)
      | rest, _ => number? rest

/-- The elements of an array up to its closing bracket. -/
def elements? : Nat → Nat → List Char → Option (List Json × List Char)
  | 0, _, _ => none
  | fuel + 1, depth, input => do
      let (value, rest) ← value? fuel depth input
      match skipSpace rest with
      | ',' :: rest =>
          let (elements, rest) ← elements? fuel depth rest
          return (value :: elements, rest)
      | ']' :: rest => return ([value], rest)
      | _ => none

/-- The members of an object up to its closing brace. -/
def members? : Nat → Nat → List Char → Option (List (String × Json) × List Char)
  | 0, _, _ => none
  | fuel + 1, depth, input => do
      match skipSpace input with
      | '"' :: rest =>
          let (name, rest) ← textBody? fuel rest []
          match skipSpace rest with
          | ':' :: rest =>
              let (value, rest) ← value? fuel depth rest
              match skipSpace rest with
              | ',' :: rest =>
                  let (members, rest) ← members? fuel depth rest
                  return ((name, value) :: members, rest)
              | '\x7d' :: rest => return ([(name, value)], rest)
              | _ => none
          | _ => none
      | _ => none

end

end Reader

/-- Read a JSON text, keeping the members of objects as they are written. -/
def parse? (text : String) : Option Json :=
  let input := text.toList
  match Reader.value? (2 * input.length + 2) Reader.depthLimit input with
  | some (value, rest) => if (Reader.skipSpace rest).isEmpty then some value else none
  | none => none

end Tenancy.Json
