import Tenancy.Text.Digits

/-!
# Sets of characters by ranges

Classes of characters are given by ranges of code points.  Long ones are written
as lines of text: hexadecimal numbers and ranges of them between blanks.
-/

namespace Tenancy.Text

/-- A set of characters: inclusive ranges of code points. -/
structure CodePoints where
  ranges : List (Nat × Nat)
  deriving Inhabited

namespace CodePoints

/-- Whether a code point lies in one of the ranges. -/
def containsCode (set : CodePoints) (code : Nat) : Bool :=
  set.ranges.any fun (first, last) => first ≤ code && code ≤ last

/-- Whether a character lies in one of the ranges. -/
def contains (set : CodePoints) (char : Char) : Bool := set.containsCode char.toNat

/-- Read ranges that are written as hexadecimal numbers or pairs of them joined
by a dash. -/
def ofLines (lines : List String) : CodePoints :=
  ⟨(lines.flatMap (·.splitOn " ")).map fun word =>
    let first := word.toList.takeWhile (· ≠ '-')
    let last := (word.toList.dropWhile (· ≠ '-')).drop 1
    (hexValue first, hexValue (if last.isEmpty then first else last))⟩

end CodePoints

end Tenancy.Text
