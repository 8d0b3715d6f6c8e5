/-!
# Decimal numbers

A decimal number is kept as it was written: an integer coefficient and the
number of its digits behind the point.  Addition, multiplication and comparison
are exact.  Exponents may be huge, so nothing here expands a power of ten that
the coefficients do not force.
-/

namespace Tenancy

/-- The number `coefficient · 10 ^ (-scale)`.  Numbers of one value may have
different scales. -/
structure Decimal where
  coefficient : Int
  scale : Int
  deriving Repr, DecidableEq, Inhabited

namespace Decimal

/-- An integer as a decimal without digits behind the point. -/
def ofInt (value : Int) : Decimal := ⟨value, 0⟩

/-- Zero. -/
def zero : Decimal := ofInt 0

instance : Coe Int Decimal := ⟨ofInt⟩

/-- Whether the value is zero. -/
def isZero (number : Decimal) : Bool := number.coefficient == 0

/-- Whether the value is above zero. -/
def isPositive (number : Decimal) : Bool := 0 < number.coefficient

/-- A power of ten; the empty product for an exponent below zero. -/
def tenPow (exponent : Int) : Int := (Nat.pow 10 exponent.toNat : Nat)

/-- The coefficient that the number has at a scale of at least its own. -/
def coefficientAt (number : Decimal) (scale : Int) : Int :=
  number.coefficient * tenPow (scale - number.scale)

/-- The exact sum, at the larger of the two scales.  A zero leaves the other
number as it is. -/
def add (first second : Decimal) : Decimal :=
  if second.isZero then first
  else if first.isZero then second
  else
    let scale := max first.scale second.scale
    ⟨first.coefficientAt scale + second.coefficientAt scale, scale⟩

instance : Add Decimal := ⟨add⟩

/-- The exact product. -/
def mul (first second : Decimal) : Decimal :=
  ⟨first.coefficient * second.coefficient, first.scale + second.scale⟩

instance : Mul Decimal := ⟨mul⟩

/-- The number of decimal digits of a positive number, and none for zero. -/
def digitCount (number : Nat) : Nat :=
  if number = 0 then 0 else count (number.log2 + 1) number
where
  /-- Count digits from the last to the first; the bits bound their number. -/
  count : Nat → Nat → Nat
    | 0, _ => 0
    | fuel + 1, number => if number < 10 then 1 else count fuel (number / 10) + 1

/-- The position of the leading digit of a number that is not zero: a number
with a lower position is smaller in magnitude. -/
def magnitude (number : Decimal) : Int :=
  (digitCount number.coefficient.natAbs : Int) - number.scale

/-- Exact comparison.  Numbers of different sign or magnitude are told apart
before any power of ten is formed. -/
def compare (first second : Decimal) : Ordering :=
  if first.coefficient.sign ≠ second.coefficient.sign then
    Ord.compare first.coefficient.sign second.coefficient.sign
  else if first.coefficient = 0 then .eq
  else if first.magnitude ≠ second.magnitude then
    if first.coefficient < 0 then Ord.compare second.magnitude first.magnitude
    else Ord.compare first.magnitude second.magnitude
  else
    let scale := max first.scale second.scale
    Ord.compare (first.coefficientAt scale) (second.coefficientAt scale)

/-- Whether the first number is below the second. -/
def isBelow (first second : Decimal) : Bool := compare first second == .lt

/-- Whether the value is an integer. -/
def isInteger (number : Decimal) : Bool :=
  number.scale ≤ 0 || number.coefficient % tenPow number.scale == 0

/-- The value without its digits behind the point. -/
def truncate (number : Decimal) : Int :=
  if number.scale ≤ 0 then number.coefficientAt 0
  else number.coefficient.tdiv (tenPow number.scale)

/-- The nearest integer; of two nearest ones the even one. -/
def roundHalfEven (number : Decimal) : Int :=
  if number.scale ≤ 0 then number.coefficientAt 0
  else
    let unit := tenPow number.scale
    let below := number.coefficient.fdiv unit
    let twice := 2 * number.coefficient.fmod unit
    if twice < unit then below
    else if unit < twice then below + 1
    else if below % 2 = 0 then below else below + 1

/-- The least integer that is not below the number. -/
def ceiling (number : Decimal) : Int :=
  if number.scale ≤ 0 then number.coefficientAt 0
  else -((-number.coefficient).fdiv (tenPow number.scale))

/-- The coefficient and the exponent of ten of the same value, with no zero at
the end of the coefficient; zero has exponent zero. -/
def reduced (number : Decimal) : Int × Int :=
  if number.coefficient = 0 then (0, 0)
  else strip (digitCount number.coefficient.natAbs) number.coefficient (-number.scale)
where
  /-- Move zeros at the end of a coefficient to its exponent. -/
  strip : Nat → Int → Int → Int × Int
    | 0, coefficient, exponent => (coefficient, exponent)
    | fuel + 1, coefficient, exponent =>
        if coefficient % 10 = 0 then strip fuel (coefficient / 10) (exponent + 1)
        else (coefficient, exponent)

/-- The same value with the shortest coefficient. -/
def shortest (number : Decimal) : Decimal := ⟨number.reduced.1, -number.reduced.2⟩

/-- The number taken a number of times.  Where one of the factors is written as
a plain one, the other is taken in its shortest form. -/
def times (number : Decimal) (count : Nat) : Decimal :=
  if number = ofInt 1 then (ofInt count).shortest
  else if count = 1 then number.shortest
  else number * ofInt count

end Decimal

end Tenancy
