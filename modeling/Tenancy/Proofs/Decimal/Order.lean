import Tenancy.Proofs.Decimal.Basic
import Tenancy.Proofs.Json.Shortest

/-!
# Decimal numbers in their order

Decimal numbers are compared by their values, however they are written.  Rounding a number to
an integer is told apart by the integers that it does not exceed: up, these are those that the
number does not exceed; half to even, an even integer is not exceeded if the number is at most
a half above it.
-/

namespace Tenancy.Decimal

/-! ## Signs -/

theorem coefficient_neg_iff (number : Decimal) : number.coefficient < 0 ↔ number.toRat < 0 := by
  rw [← not_le, ← not_le, coefficient_nonneg_iff]

theorem coefficient_pos_iff (number : Decimal) : 0 < number.coefficient ↔ 0 < number.toRat := by
  rw [← isPositive_iff, isPositive, decide_eq_true_iff]

theorem lt_of_sign_lt {first second : Decimal}
    (less : first.coefficient.sign < second.coefficient.sign) : first.toRat < second.toRat := by
  rcases lt_or_ge first.coefficient 0 with negative | nonneg
  · rcases lt_or_ge second.coefficient 0 with alsoNegative | secondNonneg
    · rw [Int.sign_eq_neg_one_of_neg negative, Int.sign_eq_neg_one_of_neg alsoNegative] at less
      exact absurd less (lt_irrefl _)
    · exact ((coefficient_neg_iff first).mp negative).trans_le
        ((coefficient_nonneg_iff second).mp secondNonneg)
  · have secondSign : 0 < second.coefficient.sign := (Int.sign_nonneg_iff.mpr nonneg).trans_lt less
    have secondPositive : 0 < second.coefficient := Int.sign_pos_iff.mp secondSign
    have vanishes : first.coefficient = 0 := by
      by_contra notZero
      rw [Int.sign_eq_one_of_pos (by omega), Int.sign_eq_one_of_pos secondPositive] at less
      exact lt_irrefl _ less
    rw [(toRat_eq_zero_iff first).mpr vanishes]
    exact (coefficient_pos_iff second).mp secondPositive

/-! ## Magnitudes -/

/-- The magnitude of a number is its place among the powers of ten. -/
theorem abs_toRat_bounds {number : Decimal} (notZero : number.coefficient ≠ 0) :
    (10 : ℚ) ^ (number.magnitude - 1) ≤ |number.toRat| ∧
      |number.toRat| < 10 ^ number.magnitude := by
  have bounds := Json.Double.scientific_bounds (Int.natAbs_pos.mpr notZero) (-number.scale)
  have isScientific :
      |number.toRat| = Json.Double.scientific number.coefficient.natAbs (-number.scale) := by
    have unitPositive : (0 : ℚ) < 10 ^ (-number.scale) := by positivity
    rw [toRat, abs_mul, abs_of_pos unitPositive, Json.Double.scientific, Nat.cast_natAbs,
      Int.cast_abs]
  rw [isScientific]
  exact bounds

theorem abs_lt_of_magnitude_lt {first second : Decimal} (firstSome : first.coefficient ≠ 0)
    (secondSome : second.coefficient ≠ 0) (less : first.magnitude < second.magnitude) :
    |first.toRat| < |second.toRat| :=
  calc
    |first.toRat| < 10 ^ first.magnitude := (abs_toRat_bounds firstSome).2
    _ ≤ 10 ^ (second.magnitude - 1) := zpow_le_zpow_right₀ (by norm_num) (by omega)
    _ ≤ |second.toRat| := (abs_toRat_bounds secondSome).1

/-! ## Comparison -/

/-- Numbers are told apart by integers that are in their order. -/
theorem compare_eq_of_ne {first second : ℚ} {left right : Int} (differ : left ≠ right)
    (less : left < right → first < second) (greater : right < left → second < first) :
    Ord.compare left right = Ord.compare first second := by
  rcases lt_or_gt_of_ne differ with isLess | isGreater
  · rw [compare_lt_iff_lt.mpr isLess, compare_lt_iff_lt.mpr (less isLess)]
  · rw [compare_gt_iff_gt.mpr isGreater, compare_gt_iff_gt.mpr (greater isGreater)]

theorem compare_coefficientAt {first second : Decimal} {scale : Int}
    (firstLarger : first.scale ≤ scale) (secondLarger : second.scale ≤ scale) :
    Ord.compare (first.coefficientAt scale) (second.coefficientAt scale) =
      Ord.compare first.toRat second.toRat := by
  have unitPositive : (0 : ℚ) < 10 ^ (-scale) := by positivity
  by_cases same : first.coefficientAt scale = second.coefficientAt scale
  · rw [← coefficientAt_mul firstLarger, ← coefficientAt_mul secondLarger, same,
      compare_eq_iff_eq.mpr rfl, compare_eq_iff_eq.mpr rfl]
  · rw [← coefficientAt_mul firstLarger, ← coefficientAt_mul secondLarger]
    exact compare_eq_of_ne same
      (fun less => mul_lt_mul_of_pos_right (Int.cast_lt.mpr less) unitPositive)
      (fun less => mul_lt_mul_of_pos_right (Int.cast_lt.mpr less) unitPositive)

/-- Numbers are compared by their values. -/
theorem compare_eq (first second : Decimal) :
    compare first second = Ord.compare first.toRat second.toRat := by
  unfold compare
  split
  next differ => exact compare_eq_of_ne differ lt_of_sign_lt lt_of_sign_lt
  next sameSign =>
    rw [not_not] at sameSign
    split
    next vanishes =>
      rw [vanishes, Int.sign_zero, eq_comm, Int.sign_eq_zero_iff_zero] at sameSign
      rw [(toRat_eq_zero_iff first).mpr vanishes, (toRat_eq_zero_iff second).mpr sameSign]
      exact (compare_eq_iff_eq.mpr rfl).symm
    next firstSome =>
      have secondSome : second.coefficient ≠ 0 := by
        intro vanishes
        rw [vanishes, Int.sign_zero, Int.sign_eq_zero_iff_zero] at sameSign
        exact firstSome sameSign
      have less := @abs_lt_of_magnitude_lt first second firstSome secondSome
      have greater := @abs_lt_of_magnitude_lt second first secondSome firstSome
      split
      next differ =>
        split
        next negative =>
          have alsoNegative : second.coefficient < 0 := by
            rw [← Int.sign_eq_neg_one_iff_neg, ← sameSign, Int.sign_eq_neg_one_iff_neg]
            exact negative
          rw [abs_of_neg ((coefficient_neg_iff _).mp negative),
            abs_of_neg ((coefficient_neg_iff _).mp alsoNegative), neg_lt_neg_iff] at less greater
          exact compare_eq_of_ne (Ne.symm differ) greater less
        next notNegative =>
          have positive : 0 < first.coefficient := by omega
          have alsoPositive : 0 < second.coefficient := by
            rw [← Int.sign_eq_one_iff_pos, ← sameSign, Int.sign_eq_one_iff_pos]
            exact positive
          rw [abs_of_pos ((coefficient_pos_iff _).mp positive),
            abs_of_pos ((coefficient_pos_iff _).mp alsoPositive)] at less greater
          exact compare_eq_of_ne differ less greater
      next => exact compare_coefficientAt (le_max_left _ _) (le_max_right _ _)

theorem isBelow_iff (first second : Decimal) :
    first.isBelow second = true ↔ first.toRat < second.toRat := by
  rw [isBelow, compare_eq, beq_iff_eq, compare_lt_iff_lt]

/-! ## Rounding to integers -/

theorem toRat_of_scale_nonpos {number : Decimal} (whole : number.scale ≤ 0) :
    number.toRat = number.coefficientAt 0 := by
  rw [← coefficientAt_mul whole, neg_zero, zpow_zero, mul_one]

theorem toRat_eq_div {number : Decimal} (nonneg : 0 ≤ number.scale) :
    number.toRat = number.coefficient / tenPow number.scale := by
  rw [toRat, tenPow_of_nonneg nonneg, zpow_neg, div_eq_mul_inv]

theorem tenPow_pos (exponent : Int) : 0 < tenPow exponent :=
  Int.natCast_pos.mpr (Nat.pow_pos (by norm_num))

/-- A number rounded up exceeds the integers that the number exceeds. -/
theorem ceiling_le_iff (number : Decimal) (bound : Int) :
    number.ceiling ≤ bound ↔ number.toRat ≤ bound := by
  unfold ceiling
  split
  next whole => rw [toRat_of_scale_nonpos whole, Int.cast_le]
  next fraction =>
    have unitPositive := tenPow_pos number.scale
    have unitRat : (0 : ℚ) < tenPow number.scale := Int.cast_pos.mpr unitPositive
    rw [toRat_eq_div (by omega), div_le_iff₀ unitRat, Int.fdiv_eq_ediv_of_nonneg _ unitPositive.le,
      neg_le, Int.le_ediv_iff_mul_le unitPositive, neg_mul, neg_le_neg_iff]
    exact_mod_cast Iff.rfl

/-- A number rounded half to even exceeds an even integer if it is more than a half above
it. -/
theorem roundHalfEven_le_iff (number : Decimal) {bound : Int} (even : bound % 2 = 0) :
    number.roundHalfEven ≤ bound ↔ number.toRat ≤ bound + 1 / 2 := by
  unfold roundHalfEven
  split
  next whole =>
    rw [toRat_of_scale_nonpos whole]
    constructor
    · intro le
      have leRat : (number.coefficientAt 0 : ℚ) ≤ bound := Int.cast_le.mpr le
      linarith
    · intro near
      have less : (number.coefficientAt 0 : ℚ) < (bound + 1 : ℤ) := by
        push_cast
        linarith
      exact Int.lt_add_one_iff.mp (Int.cast_lt.mp less)
  next fraction =>
    have unitPositive := tenPow_pos number.scale
    have unitRat : (0 : ℚ) < tenPow number.scale := Int.cast_pos.mpr unitPositive
    have nearIff : number.toRat ≤ bound + 1 / 2 ↔
        2 * number.coefficient ≤ (2 * bound + 1) * tenPow number.scale := by
      rw [toRat_eq_div (by omega), div_le_iff₀ unitRat, ← @Int.cast_le ℚ]
      push_cast
      constructor <;> intro <;> linarith
    have parts := Int.mul_fdiv_add_fmod number.coefficient (tenPow number.scale)
    have remainderNonneg := Int.fmod_nonneg_of_pos number.coefficient unitPositive
    have remainderLess := Int.fmod_lt_of_pos number.coefficient unitPositive
    rw [nearIff]
    dsimp only
    clear nearIff unitRat fraction
    generalize number.coefficient.fdiv (tenPow number.scale) = below at *
    generalize number.coefficient.fmod (tenPow number.scale) = remainder at *
    generalize tenPow number.scale = unit at *
    rw [← parts]
    rcases lt_trichotomy below bound with less | rfl | greater
    · have room : 0 ≤ (bound - below - 1) * unit := mul_nonneg (by omega) unitPositive.le
      refine iff_of_true ?_ (by linarith)
      split_ifs <;> omega
    · rw [if_pos even]
      split_ifs with isLess isGreater
      · exact iff_of_true le_rfl (by linarith)
      · exact iff_of_false (by omega) (by linarith)
      · exact iff_of_true le_rfl (by linarith)
    · have excess : 0 ≤ (below - bound - 1) * unit := mul_nonneg (by omega) unitPositive.le
      refine iff_of_false ?_ (by linarith)
      split_ifs <;> omega

/-- A number is at most a half above what it is rounded to. -/
theorem toRat_le_roundHalfEven_add_half (number : Decimal) :
    number.toRat ≤ number.roundHalfEven + 1 / 2 := by
  unfold roundHalfEven
  split
  next whole =>
    rw [toRat_of_scale_nonpos whole]
    exact le_add_of_nonneg_right (by norm_num)
  next fraction =>
    have unitPositive := tenPow_pos number.scale
    have unitRat : (0 : ℚ) < tenPow number.scale := Int.cast_pos.mpr unitPositive
    have nearOf {rounded : Int}
        (near : 2 * number.coefficient ≤ (2 * rounded + 1) * tenPow number.scale) :
        number.toRat ≤ rounded + 1 / 2 := by
      have nearRat : 2 * (number.coefficient : ℚ) ≤ (2 * rounded + 1) * tenPow number.scale := by
        exact_mod_cast near
      rw [toRat_eq_div (by omega), div_le_iff₀ unitRat]
      linarith
    have parts := Int.mul_fdiv_add_fmod number.coefficient (tenPow number.scale)
    have remainderLess := Int.fmod_lt_of_pos number.coefficient unitPositive
    dsimp only
    split_ifs <;> refine nearOf ?_ <;> linarith

theorem roundHalfEven_nonneg {number : Decimal} (nonneg : 0 ≤ number.toRat) :
    0 ≤ number.roundHalfEven := by
  unfold roundHalfEven
  split
  next whole => exact Int.cast_nonneg_iff.mp (toRat_of_scale_nonpos whole ▸ nonneg)
  next fraction =>
    have below : 0 ≤ number.coefficient.fdiv (tenPow number.scale) :=
      Int.fdiv_nonneg ((coefficient_nonneg_iff number).mpr nonneg) (tenPow_pos _).le
    dsimp only
    split_ifs <;> omega

end Tenancy.Decimal
