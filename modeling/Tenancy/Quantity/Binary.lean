import Tenancy.Decimal.Division
import Tenancy.Quantity.Basic

/-!
# Byte counts with binary suffixes

A byte count is written with the largest binary suffix whose unit divides it, by
the division of decimals; without such a suffix it is written plainly.
-/

namespace Tenancy.Quantity

/-- The number of whole units in a byte count, if it is a multiple of the unit
that is not zero. -/
def wholeUnits? (bytes : Decimal) (power : Nat) : Option Int :=
  let units := bytes / Decimal.ofInt (Nat.pow 2 power)
  if !units.isZero && units.isInteger then some units.truncate else none

/-- Write a byte count with the first of the given suffixes whose unit divides
it. -/
def formatWith (bytes : Decimal) : List (String × Nat) → Option String
  | [] => none
  | (suffix, power) :: rest =>
      match wholeUnits? bytes power with
      | some units => some (toString units ++ suffix)
      | none => formatWith bytes rest

/-- Write a byte count with the largest binary suffix that divides it. -/
def formatBinary (bytes : Decimal) : String :=
  match formatWith bytes binarySuffixes.reverse with
  | some text => text
  | none => if bytes.isInteger then toString bytes.truncate else bytes.toText

end Tenancy.Quantity
