import Tenancy.Decimal.Division
import Tenancy.Proofs.Decimal.Order

/-!
# Quotients of decimal numbers

A quotient is exact, or it has at least a hundred digits and its last one is rounded half up.
So it is off by at most half a unit of its last digit, and it does not cross a number with as
many digits behind the point.
-/

namespace Tenancy.Decimal

/-! ## Digits of a quotient -/

/-- Lifting a dividend appends zeros to it. -/
theorem exists_liftDividend_eq (fuel dividend divisor : Nat) (scale : Int) :
    ∃ zeros : Nat,
      liftDividend fuel dividend divisor scale = (dividend * 10 ^ zeros, scale + zeros) ∧
      (divisor ≤ dividend * 10 ^ fuel → divisor ≤ dividend * 10 ^ zeros) := by
  induction fuel generalizing dividend scale with
  | zero => exact ⟨0, by simp [liftDividend], id⟩
  | succ fuel ih =>
      rw [liftDividend]
      split
      next below =>
        obtain ⟨zeros, lifted, enough⟩ := ih (dividend * 10) (scale + 1)
        refine ⟨zeros + 1, ?_, ?_⟩
        · rw [lifted, pow_succ', mul_assoc]
          push_cast
          rw [add_comm (zeros : Int) 1, add_assoc]
        · rw [pow_succ', pow_succ', ← mul_assoc, ← mul_assoc]
          exact enough
      next notBelow => exact ⟨0, by simp, fun _ => by simpa using notBelow⟩

/-- Appending digits continues a division: it ends without a remainder or with all the digits
that are wanted. -/
theorem exists_appendDigits_eq {divisor : Nat} (positive : 0 < divisor)
    (wanted quotient : Nat) {remainder : Nat} (small : remainder < divisor) (scale : Int) :
    ∃ quotient' remainder' digits : Nat,
      appendDigits divisor wanted quotient remainder scale =
          (quotient', remainder', scale + digits) ∧
        quotient' * divisor + remainder' = (quotient * divisor + remainder) * 10 ^ digits ∧
        remainder' < divisor ∧ (remainder' = 0 ∨ quotient * 10 ^ wanted ≤ quotient') := by
  induction wanted generalizing quotient remainder scale with
  | zero => exact ⟨quotient, remainder, 0, by simp [appendDigits], by simp, small, .inr (by simp)⟩
  | succ wanted ih =>
      rw [appendDigits]
      split
      next vanishes => exact ⟨quotient, remainder, 0, by simp, by simp, small, .inl vanishes⟩
      next =>
        obtain ⟨quotient', remainder', digits, appended, divides, less, enough⟩ :=
          ih (quotient * 10 + remainder * 10 / divisor) (Nat.mod_lt (remainder * 10) positive)
            (scale + 1)
        refine ⟨quotient', remainder', digits + 1, ?_, ?_, less, ?_⟩
        · rw [appended]
          push_cast
          rw [add_comm (digits : Int) 1, add_assoc]
        · have parts := Nat.div_add_mod' (remainder * 10) divisor
          rw [divides, pow_succ', ← mul_assoc]
          congr 1
          rw [add_mul, add_assoc, parts]
          ring
        · refine enough.imp_right fun long => le_trans ?_ long
          rw [pow_succ', ← mul_assoc]
          exact Nat.mul_le_mul_right _ (Nat.le_add_right _ _)

/-- A digit of five or more rounds up: the rounded quotient is off by at most half a divisor, and
by nothing if there is no remainder. -/
theorem roundDigit_bounds (quotient : Nat) {remainder divisor : Nat} (positive : 0 < divisor)
    (less : remainder < divisor) :
    let rounded := if 5 ≤ remainder * 10 / divisor then quotient + 1 else quotient
    2 * (rounded * divisor) ≤ 2 * (quotient * divisor + remainder) + divisor ∧
      2 * (quotient * divisor + remainder) < 2 * (rounded * divisor) + divisor ∧
      (remainder = 0 → rounded = quotient) := by
  have roundsUp : 5 ≤ remainder * 10 / divisor ↔ divisor ≤ 2 * remainder := by
    rw [Nat.le_div_iff_mul_le positive]
    omega
  dsimp only
  split
  next up =>
    have isUp := roundsUp.mp up
    rw [add_mul, one_mul]
    exact ⟨by omega, by omega, by omega⟩
  next down =>
    have isDown := mt roundsUp.mpr down
    exact ⟨by omega, by omega, fun _ => rfl⟩

/-- As many digits as a quotient is short of a hundred make it one of a hundred digits. -/
theorem le_of_appended {front quotient : Nat} (positive : 0 < front)
    (long : front * 10 ^ (quotientDigits - digitCount front) ≤ quotient) : 10 ^ 99 ≤ quotient := by
  have frontLower := (digitCount_bounds positive).1
  have frontDigits := digitCount_pos positive
  calc
    10 ^ 99 ≤ 10 ^ (digitCount front - 1 + (quotientDigits - digitCount front)) :=
      Nat.pow_le_pow_right (by norm_num) (by rw [quotientDigits]; omega)
    _ = 10 ^ (digitCount front - 1) * 10 ^ (quotientDigits - digitCount front) := pow_add ..
    _ ≤ front * 10 ^ (quotientDigits - digitCount front) := Nat.mul_le_mul_right _ frontLower
    _ ≤ quotient := long

/-- The coefficient of a quotient is rounded half up, and is exact or has a hundred digits. -/
theorem exists_divideCoefficients_eq {dividend divisor : Nat} (dividendPositive : 0 < dividend)
    (divisorPositive : 0 < divisor) (scale : Int) :
    ∃ quotient digits : Nat,
      divideCoefficients dividend divisor scale = (quotient, scale + digits) ∧
        2 * (quotient * divisor) ≤ 2 * (dividend * 10 ^ digits) + divisor ∧
        2 * (dividend * 10 ^ digits) < 2 * (quotient * divisor) + divisor ∧
        (quotient * divisor = dividend * 10 ^ digits ∨
          10 ^ 99 * divisor ≤ dividend * 10 ^ digits) := by
  obtain ⟨zeros, lifted, enough⟩ :=
    exists_liftDividend_eq (digitCount divisor) dividend divisor scale
  have divisorLess := (digitCount_bounds divisorPositive).2
  have lifts : divisor ≤ dividend * 10 ^ zeros :=
    enough (divisorLess.le.trans (Nat.le_mul_of_pos_left _ dividendPositive))
  have front : 0 < dividend * 10 ^ zeros / divisor := Nat.div_pos lifts divisorPositive
  obtain ⟨quotient, remainder, digits, appended, divides, less, long⟩ :=
    exists_appendDigits_eq divisorPositive
      (quotientDigits - digitCount (dividend * 10 ^ zeros / divisor))
      (dividend * 10 ^ zeros / divisor) (Nat.mod_lt (dividend * 10 ^ zeros) divisorPositive)
      (scale + zeros)
  rw [Nat.div_add_mod', mul_assoc, ← pow_add] at divides
  obtain ⟨upper, lower, isExact⟩ := roundDigit_bounds quotient divisorPositive less
  refine ⟨if 5 ≤ remainder * 10 / divisor then quotient + 1 else quotient, zeros + digits, ?_, ?_⟩
  · unfold divideCoefficients
    simp only [lifted, appended, Nat.cast_add, add_assoc]
  · rw [← divides]
    refine ⟨upper, lower, ?_⟩
    rcases long with vanishes | long
    · rw [isExact vanishes, vanishes, add_zero]
      exact .inl rfl
    · have many := le_of_appended front long
      exact .inr (le_trans (Nat.mul_le_mul_right _ many) (Nat.le_add_right _ _))

/-! ## Quotients as numbers -/

/-- A number is the nearest one to a value among those with as many digits behind the point;
of two nearest ones it is the larger.  If it is not the value, a hundred of its digits are. -/
structure Approximates (number : Decimal) (value : ℚ) : Prop where
  le_add : number.toRat ≤ value + 10 ^ (-number.scale) / 2
  lt_add : value < number.toRat + 10 ^ (-number.scale) / 2
  precise : number.toRat = value ∨ 10 ^ 99 * 10 ^ (-number.scale) ≤ value

/-- An integer has no digits behind the point, so it may be counted in units of any digit there. -/
theorem intCast_eq_mul_unit {scale : Int} (nonneg : 0 ≤ scale) (bound : Int) :
    (bound : ℚ) = (bound * tenPow scale : ℤ) * 10 ^ (-scale) := by
  rw [Int.cast_mul, tenPow_of_nonneg nonneg, mul_assoc, ← zpow_add₀ (by norm_num),
    add_neg_cancel, zpow_zero, mul_one]

theorem approximates_toRat (number : Decimal) : number.Approximates number.toRat where
  le_add := le_add_of_nonneg_right (by positivity)
  lt_add := lt_add_of_pos_right _ (by positivity)
  precise := .inl rfl

theorem divide_eq (dividend divisor : Decimal) :
    dividend / divisor = dividend ∧
        (dividend.isZero = true ∨ divisor.isZero = true ∨ divisor.toRat = 1) ∨
      dividend.coefficient ≠ 0 ∧ divisor.coefficient ≠ 0 ∧
        dividend / divisor =
          let (quotient, scale) := divideCoefficients dividend.coefficient.natAbs
            divisor.coefficient.natAbs (dividend.scale - divisor.scale)
          ⟨dividend.coefficient.sign * divisor.coefficient.sign * quotient, scale⟩ := by
  change divide dividend divisor = dividend ∧ _ ∨ _ ∧ _ ∧ divide dividend divisor = _
  unfold divide
  split
  next trivial =>
    refine .inl ⟨rfl, ?_⟩
    rw [Bool.or_eq_true, Bool.or_eq_true, beq_iff_eq, compare_eq, compare_eq_iff_eq, toRat_ofInt,
      Int.cast_one, or_assoc] at trivial
    exact trivial
  next notTrivial =>
    rw [Bool.or_eq_true, Bool.or_eq_true, not_or, not_or, isZero_iff, isZero_iff] at notTrivial
    exact .inr ⟨notTrivial.1.1, notTrivial.1.2, rfl⟩

theorem div_eq_mul_unit {dividend divisor : Decimal} (nonneg : 0 ≤ dividend.coefficient)
    (positive : 0 < divisor.coefficient) (digits : Nat) :
    dividend.toRat / divisor.toRat =
      ((dividend.coefficient.natAbs * 10 ^ digits : ℕ) : ℚ) / (divisor.coefficient.natAbs : ℕ) *
        10 ^ (-(dividend.scale - divisor.scale + digits)) := by
  have ten : (10 : ℚ) ≠ 0 := by norm_num
  have isDividend : ((dividend.coefficient.natAbs : ℕ) : ℚ) = dividend.coefficient := by
    rw [Nat.cast_natAbs, abs_of_nonneg nonneg]
  have isDivisor : ((divisor.coefficient.natAbs : ℕ) : ℚ) = divisor.coefficient := by
    rw [Nat.cast_natAbs, abs_of_pos positive]
  have notZero : (divisor.coefficient : ℚ) ≠ 0 := Int.cast_ne_zero.mpr positive.ne'
  rw [Nat.cast_mul, isDividend, isDivisor, toRat, toRat, neg_add, zpow_add₀ ten, neg_sub,
    zpow_sub₀ ten, zpow_neg, zpow_neg, zpow_neg, Nat.cast_pow, zpow_natCast]
  field_simp
  norm_num

theorem approximates_of_bounds {quotient dividend divisor : Nat} {scale : Int}
    (positive : 0 < divisor) (upper : 2 * (quotient * divisor) ≤ 2 * dividend + divisor)
    (lower : 2 * dividend < 2 * (quotient * divisor) + divisor)
    (long : quotient * divisor = dividend ∨ 10 ^ 99 * divisor ≤ dividend) :
    Approximates ⟨quotient, scale⟩ ((dividend : ℚ) / divisor * 10 ^ (-scale)) := by
  have positiveRat : (0 : ℚ) < divisor := Nat.cast_pos.mpr positive
  have unitPositive : (0 : ℚ) < 10 ^ (-scale) := by positivity
  have upperRat : 2 * ((quotient : ℚ) * divisor) ≤ 2 * dividend + divisor := by exact_mod_cast upper
  have lowerRat : 2 * (dividend : ℚ) < 2 * (quotient * divisor) + divisor := by exact_mod_cast lower
  have le_half : (quotient : ℚ) ≤ dividend / divisor + 1 / 2 := by
    rw [div_add' _ _ _ positiveRat.ne', le_div_iff₀ positiveRat]
    linarith
  have lt_half : (dividend : ℚ) / divisor < quotient + 1 / 2 := by
    rw [div_lt_iff₀ positiveRat]
    linarith
  have isNumber : toRat ⟨quotient, scale⟩ = quotient * 10 ^ (-scale) := rfl
  refine ⟨?_, ?_, ?_⟩
  · calc
      toRat ⟨quotient, scale⟩ ≤ (dividend / divisor + 1 / 2) * 10 ^ (-scale) :=
        mul_le_mul_of_nonneg_right le_half unitPositive.le
      _ = _ := by ring
  · calc
      (dividend : ℚ) / divisor * 10 ^ (-scale) < (quotient + 1 / 2) * 10 ^ (-scale) :=
        mul_lt_mul_of_pos_right lt_half unitPositive
      _ = _ := by
        rw [isNumber]
        ring
  · refine long.imp ?_ ?_
    · intro noRemainder
      rw [isNumber, ← noRemainder, Nat.cast_mul, mul_div_cancel_right₀ _ positiveRat.ne']
    · intro many
      have manyRat : (10 : ℚ) ^ 99 ≤ dividend / divisor := by
        rw [le_div_iff₀ positiveRat]
        exact_mod_cast many
      exact mul_le_mul_of_nonneg_right manyRat unitPositive.le

/-- The quotient of numbers is nearest to the quotient of their values. -/
theorem approximates_divide {dividend divisor : Decimal} (nonneg : 0 ≤ dividend.toRat)
    (positive : 0 < divisor.toRat) :
    (dividend / divisor).Approximates (dividend.toRat / divisor.toRat) := by
  rcases divide_eq dividend divisor with
    ⟨isDividend, trivial⟩ | ⟨dividendSome, divisorSome, divided⟩
  · have isValue : dividend.toRat / divisor.toRat = dividend.toRat := by
      rcases trivial with vanishes | vanishes | isOne
      · rw [toRat_of_isZero vanishes, zero_div]
      · exact absurd (toRat_of_isZero vanishes) positive.ne'
      · rw [isOne, div_one]
    rw [isDividend, isValue]
    exact approximates_toRat dividend
  · have dividendPositive : 0 < dividend.coefficient :=
      lt_of_le_of_ne ((coefficient_nonneg_iff dividend).mpr nonneg) dividendSome.symm
    have divisorPositive : 0 < divisor.coefficient := (coefficient_pos_iff divisor).mpr positive
    obtain ⟨quotient, digits, computed, upper, lower, long⟩ :=
      exists_divideCoefficients_eq (Int.natAbs_pos.mpr dividendSome)
        (Int.natAbs_pos.mpr divisorSome) (dividend.scale - divisor.scale)
    rw [computed, Int.sign_eq_one_of_pos dividendPositive,
      Int.sign_eq_one_of_pos divisorPositive] at divided
    simp only [one_mul] at divided
    rw [divided, div_eq_mul_unit dividendPositive.le divisorPositive digits]
    exact approximates_of_bounds (Int.natAbs_pos.mpr divisorSome) upper lower long

/-- A quotient of a number that is not above zero is not above zero. -/
theorem toRat_divide_nonpos {dividend divisor : Decimal} (nonpos : dividend.toRat ≤ 0)
    (positive : 0 < divisor.toRat) : (dividend / divisor).toRat ≤ 0 := by
  rcases divide_eq dividend divisor with ⟨isDividend, _⟩ | ⟨dividendSome, _, divided⟩
  · rwa [isDividend]
  · have negative : dividend.coefficient < 0 := by
      have notPositive := mt (coefficient_pos_iff dividend).mp (not_lt.mpr nonpos)
      omega
    rw [Int.sign_eq_neg_one_of_neg negative,
      Int.sign_eq_one_of_pos ((coefficient_pos_iff divisor).mpr positive)] at divided
    rw [divided]
    refine mul_nonpos_of_nonpos_of_nonneg (Int.cast_nonpos.mpr ?_) (by positivity)
    dsimp only
    omega

namespace Approximates

variable {number : Decimal} {value : ℚ} (near : number.Approximates value)
include near

/-! ## What a rounded number does not cross -/

/-- A number does not exceed those with as many digits behind the point that its value does not
exceed. -/
theorem le_of_le {whole : Int} (le : value ≤ whole * 10 ^ (-number.scale)) :
    number.toRat ≤ whole * 10 ^ (-number.scale) := by
  have unitPositive : (0 : ℚ) < 10 ^ (-number.scale) := by positivity
  have less : (number.coefficient : ℚ) * 10 ^ (-number.scale) <
      (whole + 1 : ℤ) * 10 ^ (-number.scale) := by
    have half := near.le_add
    rw [toRat] at half
    push_cast
    linarith
  rw [mul_lt_mul_iff_left₀ unitPositive, Int.cast_lt, Int.lt_add_one_iff] at less
  exact mul_le_mul_of_nonneg_right (Int.cast_le.mpr less) unitPositive.le

theorem toRat_nonneg (nonneg : 0 ≤ value) : 0 ≤ number.toRat := by
  have unitPositive : (0 : ℚ) < 10 ^ (-number.scale) := by positivity
  rw [← coefficient_nonneg_iff]
  by_contra negative
  have below : (number.coefficient : ℚ) ≤ -1 := by
    exact_mod_cast Int.le_sub_one_of_lt (not_le.mp negative)
  have less := near.lt_add
  rw [toRat] at less
  nlinarith

theorem le_of_le_intCast (scaleNonneg : 0 ≤ number.scale) {bound : Int} (le : value ≤ bound) :
    number.toRat ≤ bound := by
  rw [intCast_eq_mul_unit scaleNonneg bound] at le ⊢
  exact near.le_of_le le

theorem le_of_le_add_half (scalePositive : 0 < number.scale) {bound : Int}
    (le : value ≤ bound + 1 / 2) : number.toRat ≤ bound + 1 / 2 := by
  have onGrid : (bound + 1 / 2 : ℚ) =
      ((2 * bound + 1) * 5 * tenPow (number.scale - 1) : ℤ) * 10 ^ (-number.scale) := by
    rw [Int.cast_mul, tenPow_of_nonneg (by omega), mul_assoc, ← zpow_add₀ (by norm_num)]
    have lastPlace : number.scale - 1 + -number.scale = -1 := by ring
    rw [lastPlace]
    push_cast
    norm_num
    ring
  rw [onGrid] at le ⊢
  exact near.le_of_le le

/-- A number is below its value by at most half a unit of the last of a hundred digits. -/
theorem mul_le_toRat (nonneg : 0 ≤ value) : (1 - 1 / (2 * 10 ^ 99)) * value ≤ number.toRat := by
  rcases near.precise with isValue | many
  · rw [isValue]
    exact mul_le_of_le_one_left nonneg (by norm_num)
  · have unitSmall : (10 : ℚ) ^ (-number.scale) ≤ value / 10 ^ 99 := by
      rw [le_div_iff₀ (by norm_num), mul_comm]
      exact many
    have less := near.lt_add
    linarith

/-- A value below ten to the power of ninety is known to ten digits behind the point. -/
theorem toRat_eq_or_le_scale (small : value < 10 ^ 90) :
    number.toRat = value ∨ 10 ≤ number.scale := by
  refine near.precise.imp_right fun many => ?_
  by_contra coarse
  have unitLarge : (10 : ℚ) ^ (-9 : ℤ) ≤ 10 ^ (-number.scale) :=
    zpow_le_zpow_right₀ (by norm_num) (by omega)
  have large : (10 : ℚ) ^ 90 ≤ value :=
    calc
      (10 : ℚ) ^ 90 = 10 ^ 99 * 10 ^ (-9 : ℤ) := by norm_num
      _ ≤ 10 ^ 99 * 10 ^ (-number.scale) := mul_le_mul_of_nonneg_left unitLarge (by positivity)
      _ ≤ value := many
  exact absurd small (not_lt.mpr large)

theorem le_intCast_of_small (small : value < 10 ^ 90) {bound : Int} (le : value ≤ bound) :
    number.toRat ≤ bound := by
  rcases near.toRat_eq_or_le_scale small with isValue | fine
  · exact isValue.trans_le le
  · exact near.le_of_le_intCast (by omega) le

theorem le_add_half_of_small (small : value < 10 ^ 90) {bound : Int} (le : value ≤ bound + 1 / 2) :
    number.toRat ≤ bound + 1 / 2 := by
  rcases near.toRat_eq_or_le_scale small with isValue | fine
  · exact isValue.trans_le le
  · exact near.le_of_le_add_half (by omega) le

/-- A value below ten to the power of ninety is hardly above the number. -/
theorem lt_add_tiny (small : value < 10 ^ 90) : value < number.toRat + 1 / 10 ^ 10 := by
  rcases near.toRat_eq_or_le_scale small with isValue | fine
  · rw [isValue]
    exact lt_add_of_pos_right _ (by norm_num)
  · have unitSmall : (10 : ℚ) ^ (-number.scale) ≤ 10 ^ (-10 : ℤ) :=
      zpow_le_zpow_right₀ (by norm_num) (by omega)
    have isTiny : (10 : ℚ) ^ (-10 : ℤ) = 1 / 10 ^ 10 := by norm_num
    rw [isTiny] at unitSmall
    have close := near.lt_add
    linarith

end Approximates

end Tenancy.Decimal
