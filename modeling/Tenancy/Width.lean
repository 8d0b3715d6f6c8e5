/-!
# Numbers of limited width

A number that is kept in a fixed count of bits has to be in the range that these
bits can tell apart.
-/

namespace Tenancy.Width

/-- How many numbers some bits can tell apart. -/
def size (bits : Nat) : Nat := Nat.pow 2 bits

/-- Whether a number fits in some bits that have no sign. -/
def fitsUnsigned (bits : Nat) (value : Int) : Bool := 0 ≤ value && value < size bits

/-- Whether a number fits in some bits, one of which is its sign. -/
def fitsSigned (bits : Nat) (value : Int) : Bool :=
  -(size (bits - 1) : Int) ≤ value && value < size (bits - 1)

end Tenancy.Width
