import Tenancy.Decimal.Text
import Tenancy.Proofs.Decimal.Division

/-!
# Whole numbers and quotients

A quotient of any sign is off by at most half a unit of its last digit, and exact unless it has a
hundred digits.  So a quotient that is whole is exact as long as what is divided has no more than
a hundred digits itself, and the divisor lies close above a power of ten.
-/

namespace Tenancy.Decimal

/-! ## Whole numbers -/

/-- A number is an integer exactly if its value is one. -/
theorem isInteger_iff (number : Decimal) :
    number.isInteger = true ↔ ∃ whole : ℤ, number.toRat = whole := by
  rw [isInteger, Bool.or_eq_true, decide_eq_true_iff, beq_iff_eq]
  rcases le_or_gt number.scale 0 with integral | fraction
  · exact iff_of_true (.inl integral) ⟨_, toRat_of_scale_nonpos integral⟩
  · have unitRat : (tenPow number.scale : ℚ) ≠ 0 := Int.cast_ne_zero.mpr (tenPow_pos _).ne'
    rw [or_iff_right (not_le.mpr fraction), ← Int.dvd_iff_emod_eq_zero, toRat_eq_div fraction.le]
    constructor
    · rintro ⟨whole, isWhole⟩
      exact ⟨whole, by rw [isWhole, Int.cast_mul, mul_div_cancel_left₀ _ unitRat]⟩
    · rintro ⟨whole, isWhole⟩
      rw [div_eq_iff unitRat] at isWhole
      exact ⟨whole, by rw [mul_comm]; exact_mod_cast isWhole⟩

/-- The value of an integer has nothing behind the point. -/
theorem truncate_of_isInteger {number : Decimal} (integral : number.isInteger = true) :
    (number.truncate : ℚ) = number.toRat := by
  obtain ⟨whole, isWhole⟩ := (isInteger_iff number).mp integral
  unfold truncate
  split
  next noFraction => exact (toRat_of_scale_nonpos noFraction).symm
  next fraction =>
    have unitPositive := tenPow_pos number.scale
    have unitRat : (tenPow number.scale : ℚ) ≠ 0 := Int.cast_ne_zero.mpr unitPositive.ne'
    rw [isWhole]
    rw [toRat_eq_div (by omega), div_eq_iff unitRat] at isWhole
    have isMultiple : number.coefficient = whole * tenPow number.scale := by exact_mod_cast isWhole
    rw [isMultiple, Int.mul_tdiv_cancel _ unitPositive.ne']

/-! ## Quotients of any sign -/

theorem toRat_negate (number : Decimal) : number.negate.toRat = -number.toRat := by
  rw [negate, toRat, toRat, Int.cast_neg, neg_mul]

theorem negate_divide (dividend divisor : Decimal) :
    dividend.negate / divisor = (dividend / divisor).negate := by
  change divide _ _ = (divide _ _).negate
  have isZero_negate : dividend.negate.isZero = dividend.isZero := by
    rw [Bool.eq_iff_iff, isZero_iff, isZero_iff, negate, neg_eq_zero]
  unfold divide
  rw [isZero_negate]
  split
  next => rfl
  next => simp [negate, Int.sign_neg]

/-- A number is within half a unit of its last digit of a value.  If it is not the value, a hundred
of its digits are. -/
structure Rounds (number : Decimal) (value : ℚ) : Prop where
  near : |number.toRat - value| ≤ 10 ^ (-number.scale) / 2
  precise : number.toRat = value ∨ 10 ^ 99 * 10 ^ (-number.scale) ≤ |value|

/-- A quotient is within half a unit of its last digit. -/
theorem rounds_divide (dividend : Decimal) {divisor : Decimal} (positive : 0 < divisor.toRat) :
    (dividend / divisor).Rounds (dividend.toRat / divisor.toRat) := by
  have nonnegative {dividend : Decimal} (nonneg : 0 ≤ dividend.toRat) :
      (dividend / divisor).Rounds (dividend.toRat / divisor.toRat) := by
    have approximates := approximates_divide nonneg positive
    refine ⟨abs_sub_le_iff.mpr ⟨?_, ?_⟩, ?_⟩
    · linarith [approximates.le_add]
    · linarith [approximates.lt_add]
    · rw [abs_of_nonneg (div_nonneg nonneg positive.le)]
      exact approximates.precise
  rcases le_total 0 dividend.toRat with nonneg | nonpos
  · exact nonnegative nonneg
  · -- the quotient of the number with its sign turned is the quotient with its sign turned
    have turned := nonnegative (show 0 ≤ dividend.negate.toRat by rw [toRat_negate]; linarith)
    rw [negate_divide, toRat_negate, neg_div] at turned
    obtain ⟨near, precise⟩ := turned
    rw [toRat_negate, neg_sub_neg, abs_sub_comm] at near
    rw [toRat_negate, neg_inj, abs_neg] at precise
    exact ⟨near, precise⟩

namespace Rounds

variable {number : Decimal} {value : ℚ} (rounds : number.Rounds value)
include rounds

/-- A value with as many digits behind the point as the number is the number. -/
theorem toRat_eq_of_grid {whole : ℤ} (onGrid : value = whole * 10 ^ (-number.scale)) :
    number.toRat = value := by
  have unitPositive : (0 : ℚ) < 10 ^ (-number.scale) := by positivity
  have near := rounds.near
  rw [onGrid, toRat, ← sub_mul, abs_mul, abs_of_pos unitPositive, ← Int.cast_sub, ← Int.cast_abs,
    div_eq_mul_inv, mul_comm, mul_le_mul_iff_right₀ unitPositive] at near
  have less : |number.coefficient - whole| < 1 := by
    have lessRat : (|number.coefficient - whole| : ℚ) < (1 : ℤ) := by
      push_cast at near ⊢
      linarith
    exact_mod_cast lessRat
  rw [onGrid, toRat, sub_eq_zero.mp (Int.abs_lt_one_iff.mp less)]

/-- A number is off by less than one part in as many as a hundred digits can tell apart. -/
theorem abs_sub_le : |number.toRat - value| ≤ |value| / (2 * 10 ^ 99) := by
  rcases rounds.precise with isValue | precise
  · rw [isValue, sub_self, abs_zero]
    positivity
  · have near := rounds.near
    rw [le_div_iff₀ (by norm_num)]
    linarith

end Rounds

/-! ## Whole quotients -/

/-- A quotient whose value is whole is an integer, if perhaps another one. -/
theorem isInteger_divide_of_whole (dividend : Decimal) {divisor : Decimal}
    (positive : 0 < divisor.toRat) {whole : ℤ}
    (isWhole : dividend.toRat / divisor.toRat = whole) :
    (dividend / divisor).isInteger = true := by
  rcases le_or_gt (dividend / divisor).scale 0 with integral | fraction
  · rw [isInteger, decide_eq_true integral, Bool.true_or]
  · have rounds := rounds_divide dividend positive
    rw [isWhole] at rounds
    have onGrid := rounds.toRat_eq_of_grid (intCast_eq_mul_unit fraction.le whole)
    exact (isInteger_iff _).mpr ⟨whole, onGrid⟩

/-- A value can be written plainly with at most a hundred digits. -/
def IsShort (value : ℚ) : Prop :=
  ∃ (digits : ℤ) (places : ℕ), |digits| < 10 ^ 100 ∧ value * 10 ^ places = digits

theorem isShort_intCast {number : ℤ} (few : |number| < 10 ^ 100) : IsShort number :=
  ⟨number, 0, few, by rw [pow_zero, mul_one]⟩

/-- The values that a power of ten times some number has between one and two are ten times as far
apart: what is not below two is not below ten. -/
theorem ten_le_of_two_le {unit power : ℕ} (lower : 10 ^ power ≤ unit)
    (upper : unit < 2 * 10 ^ power) {exponent : ℤ} (two_le : (2 : ℚ) ≤ unit * 10 ^ exponent) :
    (10 : ℚ) ≤ unit * 10 ^ exponent := by
  have ten : (10 : ℚ) ≠ 0 := by norm_num
  have expPositive : (0 : ℚ) < 10 ^ exponent := by positivity
  have lowerRat : (10 : ℚ) ^ power ≤ unit := by exact_mod_cast lower
  have upperRat : (unit : ℚ) < 2 * 10 ^ power := by exact_mod_cast upper
  have split : (10 : ℚ) ^ (power + exponent) = 10 ^ power * 10 ^ exponent := by
    rw [zpow_add₀ ten, zpow_natCast]
  have above : (10 : ℚ) ^ (0 : ℤ) < 10 ^ (power + exponent) := by
    rw [split, zpow_zero]
    have less := mul_lt_mul_of_pos_right upperRat expPositive
    linarith
  have positive : 0 < power + exponent := (zpow_lt_zpow_iff_right₀ (by norm_num)).mp above
  calc
    (10 : ℚ) = 10 ^ (1 : ℤ) := (zpow_one _).symm
    _ ≤ 10 ^ (power + exponent) := zpow_le_zpow_right₀ (by norm_num) positive
    _ = 10 ^ power * 10 ^ exponent := split
    _ ≤ unit * 10 ^ exponent := mul_le_mul_of_nonneg_right lowerRat expPositive.le

/-- Measured in parts in which a value is whole, a whole number next to it is a part away. -/
theorem one_le_abs_sub_mul {value : ℚ} {digits whole : ℤ} {parts : ℕ} (positive : 0 < parts)
    (isWhole : value * parts = digits) (differs : (whole : ℚ) ≠ value) :
    1 ≤ |whole - value| * parts := by
  have partsPositive : (0 : ℚ) < parts := Nat.cast_pos.mpr positive
  have notSame : whole * parts - digits ≠ 0 := by
    intro same
    have sameRat : (whole : ℚ) * parts = digits := by exact_mod_cast sub_eq_zero.mp same
    exact differs (mul_right_cancel₀ partsPositive.ne' (sameRat.trans isWhole.symm))
  rw [← abs_of_pos partsPositive, ← abs_mul, sub_mul, isWhole]
  exact_mod_cast Int.one_le_abs notSame

/-- A whole quotient of a short number and a divisor close above a power of ten is exact: a whole
number next to the quotient is further off than half a unit of the last of a hundred digits. -/
theorem toRat_divide_of_isInteger {dividend divisor : Decimal} (short : IsShort dividend.toRat)
    {unit power : ℕ} (isUnit : divisor.toRat = unit) (lower : 10 ^ power ≤ unit)
    (upper : unit < 2 * 10 ^ power) (integral : (dividend / divisor).isInteger = true) :
    (dividend / divisor).toRat = dividend.toRat / unit := by
  obtain ⟨digits, places, few, isDigits⟩ := short
  obtain ⟨whole, isWhole⟩ := (isInteger_iff _).mp integral
  have unitPositive : 0 < unit := (pow_pos (by norm_num) power).trans_le lower
  have rounds := rounds_divide dividend (isUnit ▸ Nat.cast_pos.mpr unitPositive)
  rw [isUnit] at rounds
  by_contra differs
  have near := rounds.near
  have precise := rounds.precise.resolve_left differs
  rw [isWhole] at differs near
  generalize (dividend / divisor).scale = scale at near precise
  -- measured in the last of the digits of the dividend, both numbers are whole
  have isQuotient : dividend.toRat / unit * (unit * 10 ^ places : ℕ) = digits := by
    rw [← isDigits]
    push_cast
    field_simp
  have partsPositive : 0 < unit * 10 ^ places := by positivity
  have apart := one_le_abs_sub_mul partsPositive isQuotient differs
  have shifted : (unit : ℚ) * 10 ^ (places + -scale) =
      (unit * 10 ^ places : ℕ) * 10 ^ (-scale) := by
    rw [zpow_add₀ (by norm_num), zpow_natCast, ← mul_assoc]
    push_cast
    rfl
  generalize unit * 10 ^ places = parts at isQuotient partsPositive apart shifted
  have partsRat : (0 : ℚ) < parts := Nat.cast_pos.mpr partsPositive
  have ten_le : (10 : ℚ) ≤ parts * 10 ^ (-scale) := by
    have half := mul_le_mul_of_nonneg_right near partsRat.le
    rw [← shifted]
    refine ten_le_of_two_le lower upper ?_
    rw [shifted]
    linarith
  have many : (10 : ℚ) ^ 100 ≤ |(digits : ℚ)| :=
    calc
      (10 : ℚ) ^ 100 = (10 : ℚ) ^ 99 * 10 := by norm_num
      _ ≤ (10 : ℚ) ^ 99 * (parts * 10 ^ (-scale)) :=
        mul_le_mul_of_nonneg_left ten_le (by norm_num)
      _ = (10 : ℚ) ^ 99 * 10 ^ (-scale) * parts := by ring
      _ ≤ |dividend.toRat / unit| * parts := mul_le_mul_of_nonneg_right precise partsRat.le
      _ = |(digits : ℚ)| := by rw [← isQuotient, abs_mul, abs_of_pos partsRat]
  have fewRat : |(digits : ℚ)| < 10 ^ 100 := by exact_mod_cast few
  exact absurd many (not_le.mpr fewRat)

end Tenancy.Decimal
