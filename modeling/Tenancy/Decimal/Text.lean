import Tenancy.Decimal.Basic
import Tenancy.Text.Digits

/-!
# Decimal numbers as text

`ofUnsigned` reads digits with an optional point, keeping every digit that is
written.  `toText` writes every digit that is stored: positionally, or with an
exponent when many zeros would stand between the point and the first digit.
-/

namespace Tenancy.Decimal

/-- The decimal of a run of digits with a point somewhere in it; the digits
behind the point make its scale. -/
def ofUnsigned (digits : List Char) : Decimal :=
  let whole := digits.takeWhile (· ≠ '.')
  let fraction := (digits.dropWhile (· ≠ '.')).drop 1
  ⟨Text.decimalValue fraction (Text.decimalValue whole 0), fraction.length⟩

/-- The same number with its sign turned. -/
def negate (number : Decimal) : Decimal := ⟨-number.coefficient, number.scale⟩

/-- Multiply by a power of ten by moving the point. -/
def shift (number : Decimal) (exponent : Int) : Decimal :=
  ⟨number.coefficient, number.scale - exponent⟩

/-- The most zeros that are written between the point and the first digit. -/
def leadingZeros : Nat := 5

/-- The digits of a magnitude with the last `scale` of them behind the point.
A number with more than `leadingZeros` zeros behind the point is written with
one digit before the point and an exponent. -/
def magnitudeText (digits : List Char) (scale : Nat) : List Char :=
  if digits.length + leadingZeros < scale then
    let exponent := scale - (digits.length - 1)
    let fraction := digits.drop 1
    digits.take 1 ++ (if fraction.isEmpty then [] else '.' :: fraction) ++
      'E' :: '-' :: (toString exponent).toList
  else if scale = 0 then digits
  else if scale < digits.length then
    digits.take (digits.length - scale) ++ '.' :: digits.drop (digits.length - scale)
  else '0' :: '.' :: (List.replicate (scale - digits.length) '0' ++ digits)

/-- The text of a number with a scale of at least zero. -/
def toText (number : Decimal) : String :=
  let text := magnitudeText (toString number.coefficient.natAbs).toList number.scale.toNat
  String.ofList (if number.coefficient < 0 then '-' :: text else text)

end Tenancy.Decimal
