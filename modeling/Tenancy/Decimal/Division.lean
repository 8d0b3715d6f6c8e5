import Tenancy.Decimal.Basic

/-!
# Division to a hundred digits

A quotient of decimals need not be a decimal.  Division computes the digits of
the quotient one by one and stops when nothing remains or when a hundred digits
are known; a remainder that is left rounds the last digit.
-/

namespace Tenancy.Decimal

/-- The number of digits after which a quotient is rounded. -/
def quotientDigits : Nat := 100

/-- Multiply a dividend by ten until it is at least the divisor, counting the
factors. -/
def liftDividend : Nat → Nat → Nat → Int → Nat × Int
  | 0, dividend, _, scale => (dividend, scale)
  | fuel + 1, dividend, divisor, scale =>
      if dividend < divisor then liftDividend fuel (dividend * 10) divisor (scale + 1)
      else (dividend, scale)

/-- Append digits to a quotient while there is a remainder and a digit is
wanted.  The result is the quotient, the remainder and the scale. -/
def appendDigits (divisor : Nat) : Nat → Nat → Nat → Int → Nat × Nat × Int
  | 0, quotient, remainder, scale => (quotient, remainder, scale)
  | wanted + 1, quotient, remainder, scale =>
      if remainder = 0 then (quotient, remainder, scale)
      else
        appendDigits divisor wanted (quotient * 10 + remainder * 10 / divisor)
          (remainder * 10 % divisor) (scale + 1)

/-- Divide positive coefficients, at the scale of their difference. -/
def divideCoefficients (dividend divisor : Nat) (scale : Int) : Nat × Int :=
  let (dividend, scale) := liftDividend (digitCount divisor) dividend divisor scale
  let quotient := dividend / divisor
  let (quotient, remainder, scale) :=
    appendDigits divisor (quotientDigits - digitCount quotient) quotient
      (dividend % divisor) scale
  (if 5 ≤ remainder * 10 / divisor then quotient + 1 else quotient, scale)

/-- The quotient of two numbers, rounded half away from zero when it has more
digits than are kept.  A dividend of zero and a divisor of one return the
dividend as it is; a divisor of zero gives zero. -/
def divide (dividend divisor : Decimal) : Decimal :=
  if dividend.isZero || divisor.isZero || compare divisor (ofInt 1) == .eq then dividend
  else
    let (quotient, scale) :=
      divideCoefficients dividend.coefficient.natAbs divisor.coefficient.natAbs
        (dividend.scale - divisor.scale)
    ⟨dividend.coefficient.sign * divisor.coefficient.sign * quotient, scale⟩

instance : Div Decimal := ⟨divide⟩

end Tenancy.Decimal
