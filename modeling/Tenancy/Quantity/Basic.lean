import Tenancy.Decimal.Text
import Tenancy.Text.Blank
import Tenancy.Text.Quoted
import Tenancy.Width

/-!
# Resource quantities

A quantity is a decimal number with a suffix: a power of 1024, a power of 1000,
or an exponent of ten.  Reading a quantity is exact; a text that is no quantity
is reported as it was given.
-/

namespace Tenancy.Quantity

/-- A text that is not a quantity. -/
structure Invalid where
  text : String
  deriving Repr, DecidableEq, Inhabited

/-- The report of a text that is not a quantity. -/
def Invalid.message (fault : Invalid) : String :=
  "invalid quantity " ++ Text.quoted fault.text

/-- The binary suffixes with the power of two that each stands for. -/
def binarySuffixes : List (String × Nat) :=
  [("Ki", 10), ("Mi", 20), ("Gi", 30), ("Ti", 40), ("Pi", 50), ("Ei", 60)]

/-- The decimal suffixes with the power of ten that each stands for. -/
def decimalSuffixes : List (String × Int) :=
  [("n", -9), ("u", -6), ("m", -3), ("", 0), ("k", 3), ("M", 6), ("G", 9),
    ("T", 12), ("P", 15), ("E", 18)]

/-- The factor by which a suffix scales the number before it. -/
inductive Unit where
  | binary (power : Nat)
  | decimal (power : Int)
  deriving Repr, DecidableEq

/-- Scale a number by a unit. -/
def Unit.apply (number : Decimal) : Unit → Decimal
  | .binary power => number * Decimal.ofInt (Nat.pow 2 power)
  | .decimal power => number.shift power

/-- Whether a character may stand in the digits of a number. -/
def isNumberChar (char : Char) : Bool := char.isDigit || char == '.'

/-- Split a sign off the front; without one the number is positive. -/
def splitSign : List Char → Bool × List Char
  | '+' :: rest => (false, rest)
  | '-' :: rest => (true, rest)
  | chars => (false, chars)

/-- The value of digits with at most one point among them; at least one digit
is needed. -/
def unsigned? (digits : List Char) : Option Decimal :=
  if digits.any Char.isDigit && digits.count '.' ≤ 1 then some (Decimal.ofUnsigned digits)
  else none

/-- A decimal integer with an optional sign, if it fits in 32 bits. -/
def exponent? (chars : List Char) : Option Int :=
  let (negative, digits) := splitSign chars
  if !digits.isEmpty && digits.all Char.isDigit then
    let magnitude : Int := Text.decimalValue digits 0
    let exponent := if negative then -magnitude else magnitude
    if Width.fitsSigned 32 exponent then some exponent else none
  else none

/-- The unit that a suffix stands for.  A suffix that is not listed has to be an
exponent: `e` or `E` and an integer. -/
def unit? (suffix : List Char) : Option Unit :=
  match binarySuffixes.find? (·.1.toList == suffix) with
  | some (_, power) => some (.binary power)
  | none =>
    match decimalSuffixes.find? (·.1.toList == suffix) with
    | some (_, power) => some (.decimal power)
    | none =>
      match suffix with
      | 'e' :: rest => (exponent? rest).map .decimal
      | 'E' :: rest => (exponent? rest).map .decimal
      | _ => none

/-- The value of a trimmed quantity: sign, digits and suffix. -/
def value? (chars : List Char) : Option Decimal := do
  let (negative, rest) := splitSign chars
  let number ← unsigned? (rest.takeWhile isNumberChar)
  let unit ← unit? (rest.dropWhile isNumberChar)
  return unit.apply (if negative then number.negate else number)

/-- Read a quantity; blanks around it do not count. -/
def parse (text : String) : Except Invalid Decimal :=
  match value? (Text.trim text.toList) with
  | some value => .ok value
  | none => .error ⟨text⟩

/-- Read a quantity that may be absent; an absent one is zero. -/
def parseOrZero : Option String → Except Invalid Decimal
  | some text => parse text
  | none => .ok Decimal.zero

end Tenancy.Quantity
