import Mathlib.Algebra.Order.Field.Power
import Mathlib.Tactic.FieldSimp
import Mathlib.Tactic.Positivity
import Mathlib.Tactic.Ring
import Tenancy.Decimal.Basic

/-!
# The values of decimal numbers

A decimal number stands for a rational one.  Addition and multiplication are exact, and
the shortest form of a number has the same value.  Among numbers that are not below zero
the order of summands does not matter even to the scale of a sum.
-/

namespace Tenancy.Decimal

/-- The value of a number. -/
def toRat (number : Decimal) : ℚ := number.coefficient * 10 ^ (-number.scale)

theorem toRat_ofInt (value : Int) : (ofInt value).toRat = value := by
  simp [toRat, ofInt]

theorem toRat_zero : zero.toRat = 0 := by
  simp [zero, toRat_ofInt]

/-- A number is above zero exactly if its coefficient is. -/
theorem isPositive_iff (number : Decimal) : number.isPositive = true ↔ 0 < number.toRat := by
  have isPower : (0 : ℚ) < 10 ^ (-number.scale) := by positivity
  rw [isPositive, decide_eq_true_iff, toRat, mul_pos_iff_of_pos_right isPower, Int.cast_pos]

theorem coefficient_nonneg_iff (number : Decimal) : 0 ≤ number.coefficient ↔ 0 ≤ number.toRat := by
  have isPower : (0 : ℚ) < 10 ^ (-number.scale) := by positivity
  rw [toRat, mul_nonneg_iff_of_pos_right isPower, Int.cast_nonneg_iff]

theorem toRat_eq_zero_iff (number : Decimal) : number.toRat = 0 ↔ number.coefficient = 0 := by
  have isPower : (10 : ℚ) ^ (-number.scale) ≠ 0 := by positivity
  rw [toRat, mul_eq_zero_iff_right isPower, Int.cast_eq_zero]

theorem isZero_iff (number : Decimal) : number.isZero = true ↔ number.coefficient = 0 :=
  beq_iff_eq

theorem toRat_of_isZero {number : Decimal} (vanishes : number.isZero = true) :
    number.toRat = 0 := by
  rw [toRat, (isZero_iff number).mp vanishes, Int.cast_zero, zero_mul]

/-! ## Scales -/

theorem tenPow_of_nonneg {exponent : Int} (nonneg : 0 ≤ exponent) :
    (tenPow exponent : ℚ) = 10 ^ exponent := by
  obtain ⟨digits, rfl⟩ := Int.eq_ofNat_of_zero_le nonneg
  simp [tenPow]

theorem tenPow_add {first second : Int} (firstNonneg : 0 ≤ first) (secondNonneg : 0 ≤ second) :
    tenPow (first + second) = tenPow first * tenPow second := by
  simp only [tenPow, Int.toNat_add firstNonneg secondNonneg]
  exact_mod_cast pow_add 10 first.toNat second.toNat

/-- The coefficient at a larger scale stands for the same value. -/
theorem coefficientAt_mul {number : Decimal} {scale : Int} (larger : number.scale ≤ scale) :
    (number.coefficientAt scale : ℚ) * 10 ^ (-scale) = number.toRat := by
  have ten : (10 : ℚ) ≠ 0 := by norm_num
  rw [coefficientAt, Int.cast_mul, tenPow_of_nonneg (by omega), mul_assoc, ← zpow_add₀ ten, toRat]
  congr 2
  omega

/-- Coefficients at scales are taken in steps. -/
theorem coefficientAt_coefficientAt (number : Decimal) {middle scale : Int}
    (larger : number.scale ≤ middle) (largest : middle ≤ scale) :
    coefficientAt ⟨number.coefficientAt middle, middle⟩ scale = number.coefficientAt scale := by
  simp only [coefficientAt]
  rw [mul_assoc, ← tenPow_add (by omega) (by omega)]
  congr 2
  omega

/-! ## Sums and products -/

theorem add_eq (first second : Decimal) (firstSome : first.isZero = false)
    (secondSome : second.isZero = false) :
    first + second =
      ⟨first.coefficientAt (max first.scale second.scale) +
        second.coefficientAt (max first.scale second.scale), max first.scale second.scale⟩ := by
  change add first second = _
  simp only [add, firstSome, secondSome]
  rfl

theorem add_of_isZero_right {first second : Decimal} (vanishes : second.isZero = true) :
    first + second = first := by
  change add first second = _
  simp only [add, vanishes, if_true]

theorem add_of_isZero_left {first second : Decimal} (vanishes : first.isZero = true)
    (secondSome : second.isZero = false) : first + second = second := by
  change add first second = _
  simp only [add, vanishes, secondSome]
  rfl

/-- Addition is exact. -/
theorem toRat_add (first second : Decimal) :
    (first + second).toRat = first.toRat + second.toRat := by
  cases secondZero : second.isZero with
  | true => rw [add_of_isZero_right secondZero, toRat_of_isZero secondZero, add_zero]
  | false =>
      cases firstZero : first.isZero with
      | true => rw [add_of_isZero_left firstZero secondZero, toRat_of_isZero firstZero, zero_add]
      | false =>
          rw [add_eq first second firstZero secondZero, toRat, Int.cast_add, add_mul,
            coefficientAt_mul (le_max_left _ _), coefficientAt_mul (le_max_right _ _)]

/-- Multiplication is exact. -/
theorem toRat_mul (first second : Decimal) :
    (first * second).toRat = first.toRat * second.toRat := by
  have ten : (10 : ℚ) ≠ 0 := by norm_num
  change (mul first second).toRat = _
  simp only [mul, toRat, Int.cast_mul, neg_add, zpow_add₀ ten]
  ring

/-- Moving zeros at the end of a coefficient to its exponent keeps the value. -/
theorem strip_mul (fuel : Nat) (coefficient exponent : Int) :
    ((reduced.strip fuel coefficient exponent).1 : ℚ) *
        10 ^ (reduced.strip fuel coefficient exponent).2 =
      coefficient * 10 ^ exponent := by
  induction fuel generalizing coefficient exponent with
  | zero => rfl
  | succ fuel ih =>
      rw [reduced.strip]
      split
      next ends =>
        obtain ⟨front, rfl⟩ := Int.dvd_of_emod_eq_zero ends
        rw [ih, Int.mul_ediv_cancel_left _ (by norm_num), zpow_add_one₀ (by norm_num),
          Int.cast_mul]
        push_cast
        ring
      next => rfl

/-- The shortest form has the same value. -/
theorem toRat_shortest (number : Decimal) : number.shortest.toRat = number.toRat := by
  rw [shortest, toRat, toRat, neg_neg, reduced]
  split
  next vanishes => simp [vanishes]
  next => exact strip_mul _ _ _

/-- A number is taken a number of times exactly. -/
theorem toRat_times (number : Decimal) (count : Nat) :
    (number.times count).toRat = count * number.toRat := by
  unfold times
  split
  next isOne => simp [toRat_shortest, isOne, toRat_ofInt]
  next =>
    split
    next once => simp [toRat_shortest, once]
    next => rw [toRat_mul, toRat_ofInt, Int.cast_natCast, mul_comm]

/-! ## The order of summands -/

theorem coefficientAt_pos {number : Decimal} (positive : 0 < number.coefficient) (scale : Int) :
    0 < number.coefficientAt scale := by
  rw [coefficientAt, tenPow]
  exact mul_pos positive (Int.natCast_pos.mpr (pow_pos (by norm_num) _))

theorem isZero_eq_false_of_pos {number : Decimal} (positive : 0 < number.coefficient) :
    number.isZero = false := by
  rw [← Bool.not_eq_true, isZero_iff]
  exact positive.ne'

theorem coefficient_add_pos {first second : Decimal} (firstPositive : 0 < first.coefficient)
    (secondPositive : 0 < second.coefficient) : 0 < (first + second).coefficient := by
  rw [add_eq first second (isZero_eq_false_of_pos firstPositive)
    (isZero_eq_false_of_pos secondPositive)]
  exact add_pos (coefficientAt_pos firstPositive _) (coefficientAt_pos secondPositive _)

/-- A sum is not below zero if its summands are not. -/
theorem coefficient_add_nonneg {first second : Decimal} (firstNonneg : 0 ≤ first.coefficient)
    (secondNonneg : 0 ≤ second.coefficient) : 0 ≤ (first + second).coefficient := by
  cases secondZero : second.isZero with
  | true => rwa [add_of_isZero_right secondZero]
  | false =>
      cases firstZero : first.isZero with
      | true => rwa [add_of_isZero_left firstZero secondZero]
      | false =>
          rw [← Bool.not_eq_true, isZero_iff] at firstZero secondZero
          exact (coefficient_add_pos (by omega) (by omega)).le

/-- Three summands above zero are added at the largest of their scales. -/
theorem add_add_eq {first second third : Decimal} (firstPositive : 0 < first.coefficient)
    (secondPositive : 0 < second.coefficient) (thirdPositive : 0 < third.coefficient) :
    first + second + third =
      let scale := max (max first.scale second.scale) third.scale
      ⟨first.coefficientAt scale + second.coefficientAt scale + third.coefficientAt scale,
        scale⟩ := by
  have firstSecond := add_eq first second (isZero_eq_false_of_pos firstPositive)
    (isZero_eq_false_of_pos secondPositive)
  rw [add_eq _ third
    (isZero_eq_false_of_pos (coefficient_add_pos firstPositive secondPositive))
    (isZero_eq_false_of_pos thirdPositive), firstSecond]
  dsimp only
  have larger := le_max_left (max first.scale second.scale) third.scale
  rw [← coefficientAt_coefficientAt first (le_max_left _ _) larger,
    ← coefficientAt_coefficientAt second (le_max_right _ _) larger]
  simp only [coefficientAt, add_mul]

/-- Summands that are not below zero may be added in any order. -/
theorem add_right_comm_of_nonneg {total first second : Decimal}
    (totalNonneg : 0 ≤ total.coefficient) (firstNonneg : 0 ≤ first.coefficient)
    (secondNonneg : 0 ≤ second.coefficient) :
    total + first + second = total + second + first := by
  have positive_of {number : Decimal} (nonneg : 0 ≤ number.coefficient)
      (notZero : number.isZero = false) : 0 < number.coefficient := by
    rw [← Bool.not_eq_true, isZero_iff] at notZero
    omega
  cases firstZero : first.isZero with
  | true => rw [add_of_isZero_right firstZero, add_of_isZero_right firstZero]
  | false =>
      cases secondZero : second.isZero with
      | true => rw [add_of_isZero_right secondZero, add_of_isZero_right secondZero]
      | false =>
          cases totalZero : total.isZero with
          | true =>
              rw [add_of_isZero_left totalZero firstZero, add_of_isZero_left totalZero secondZero,
                add_eq first second firstZero secondZero, add_eq second first secondZero firstZero,
                max_comm, add_comm]
          | false =>
              have totalPositive := positive_of totalNonneg totalZero
              have firstPositive := positive_of firstNonneg firstZero
              have secondPositive := positive_of secondNonneg secondZero
              rw [add_add_eq totalPositive firstPositive secondPositive,
                add_add_eq totalPositive secondPositive firstPositive, max_right_comm]
              dsimp only
              rw [add_right_comm]

end Tenancy.Decimal
