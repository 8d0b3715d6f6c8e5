import Tenancy.Decimal.Basic

/-!
# The text of a double

A number that is no integer is kept as it is written, but it stands for the
nearest double.  Its text is the shortest decimal that stands for the same double,
with a point or an exponent in it so that it reads as no integer.
-/

namespace Tenancy.Json

/-- A double without its sign: `significand · 2 ^ exponent`. -/
structure Double where
  significand : Nat
  exponent : Int
  deriving Repr, DecidableEq

namespace Double

/-- The quotient of two numbers, rounded to the nearest integer; a half goes to
the even one. -/
def roundQuotient (dividend divisor : Nat) : Nat :=
  let below := dividend / divisor
  let twice := 2 * (dividend % divisor)
  if twice < divisor || (twice == divisor && below % 2 == 0) then below else below + 1

/-- The quotient of two numbers in units of a power of two, rounded. -/
def inUnits (dividend divisor : Nat) (exponent : Int) : Nat :=
  roundQuotient (dividend * Nat.pow 2 (-exponent).toNat) (divisor * Nat.pow 2 exponent.toNat)

/-- The exponent of the least double above zero. -/
def leastExponent : Int := -1074

/-- The double nearest to a quotient of positive numbers. -/
def ofQuotient (dividend divisor : Nat) : Double :=
  let exponent := max ((dividend.log2 : Int) - divisor.log2 - 53) leastExponent
  let significand := inUnits dividend divisor exponent
  if significand < Nat.pow 2 53 then ⟨significand, exponent⟩
  else
    let significand := inUnits dividend divisor (exponent + 1)
    if significand < Nat.pow 2 53 then ⟨significand, exponent + 1⟩
    else ⟨Nat.pow 2 52, exponent + 2⟩

/-- The number of digits in front of which every decimal stands for zero. -/
def vanishing : Int := -330

/-- The double nearest to a decimal. -/
def ofDecimal (significand : Nat) (exponent : Int) : Double :=
  if significand = 0 || (Decimal.digitCount significand : Int) + exponent < vanishing then
    ⟨0, 0⟩
  else ofQuotient (significand * Nat.pow 10 exponent.toNat) (Nat.pow 10 (-exponent).toNat)

/-- The decimal with some digits that is nearest to a positive double, where the
double is below `10 ^ position`. -/
def toDecimal (double : Double) (position : Int) (digits : Nat) : Nat × Int :=
  let exponent := position - digits
  let dividend :=
    double.significand * Nat.pow 2 double.exponent.toNat * Nat.pow 10 (-exponent).toNat
  let divisor := Nat.pow 2 (-double.exponent).toNat * Nat.pow 10 exponent.toNat
  (roundQuotient dividend divisor, exponent)

/-- The shortest decimal that stands for a positive double, among those with at
least some number of digits. -/
def shortestFrom (double : Double) (position : Int) : Nat → Nat → Nat × Int
  | 0, digits => double.toDecimal position digits
  | fuel + 1, digits =>
      let decimal := double.toDecimal position digits
      if ofDecimal decimal.1 decimal.2 = double then decimal
      else shortestFrom double position fuel (digits + 1)

/-- The most digits that tell two doubles apart. -/
def mostDigits : Nat := 17

/-- The shortest decimal that stands for the double next to a decimal that is not
zero. -/
def shortest (significand : Nat) (exponent : Int) : Nat × Int :=
  let position := (Decimal.digitCount significand : Int) + exponent
  shortestFrom (ofDecimal significand exponent) position mostDigits 1

/-- The text of digits with an exponent: positional where the point is not far
from the digits, and otherwise with one digit in front of the point. -/
def layout (digits : List Char) (exponent : Int) : List Char :=
  let length : Int := digits.length
  let position := length + exponent
  if 0 ≤ exponent && position ≤ 16 then
    digits ++ List.replicate exponent.toNat '0' ++ ['.', '0']
  else if 0 < position && position ≤ 16 then
    digits.take position.toNat ++ '.' :: digits.drop position.toNat
  else if -5 < position && position ≤ 0 then
    '0' :: '.' :: List.replicate (-position).toNat '0' ++ digits
  else
    let fraction := digits.drop 1
    digits.take 1 ++ (if fraction.isEmpty then [] else '.' :: fraction) ++
      'e' :: (toString (position - 1)).toList

/-- The text of the double next to a decimal; a zero has a sign too. -/
def text (negative : Bool) (significand : Nat) (exponent : Int) : String :=
  let sign := if negative then ['-'] else []
  if (ofDecimal significand exponent).significand = 0 then
    String.ofList (sign ++ ['0', '.', '0'])
  else
    let (digits, exponent) := shortest significand exponent
    let (digits, exponent) := Decimal.reduced.strip 20 digits exponent
    String.ofList (sign ++ layout (toString digits).toList exponent)

end Double

end Tenancy.Json
