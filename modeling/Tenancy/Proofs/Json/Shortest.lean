import Tenancy.Json.Reader
import Tenancy.Proofs.Decimal.Basic
import Tenancy.Proofs.Json.Rounding
import Tenancy.Proofs.Text.Digits

/-!
# Decimals that stand for doubles

Which double a decimal stands for depends on the value of the decimal alone.  The shortest
decimal that is found for a double stands for it: eighteen digits are always enough.
-/

namespace Tenancy.Json.Double

/-- The value of a decimal. -/
def scientific (significand : Nat) (exponent : Int) : ℚ := significand * 10 ^ exponent

section Decimals

variable {significand other : Nat} {exponent otherExponent : Int}

theorem scientific_pos_iff : 0 < scientific significand exponent ↔ 0 < significand := by
  have unitPositive : (0 : ℚ) < 10 ^ exponent := by positivity
  rw [scientific, mul_pos_iff_of_pos_right unitPositive, Nat.cast_pos]

theorem ten_zpow_add (first second : Int) :
    (10 : ℚ) ^ (first + second) = 10 ^ first * 10 ^ second :=
  zpow_add₀ (by norm_num) first second

/-- The place of a decimal among the powers of ten. -/
theorem scientific_bounds (positive : 0 < significand) (exponent : Int) :
    (10 : ℚ) ^ ((Decimal.digitCount significand : Int) + exponent - 1) ≤
        scientific significand exponent ∧
      scientific significand exponent <
        10 ^ ((Decimal.digitCount significand : Int) + exponent) := by
  obtain ⟨lower, upper⟩ := Decimal.digitCount_bounds positive
  have someDigits := Decimal.digitCount_pos positive
  have unitPositive : (0 : ℚ) < 10 ^ exponent := by positivity
  have lowerRat : (10 : ℚ) ^ (Decimal.digitCount significand - 1) ≤ significand := by
    exact_mod_cast lower
  have upperRat : (significand : ℚ) < 10 ^ Decimal.digitCount significand := by
    exact_mod_cast upper
  constructor
  · have split : (Decimal.digitCount significand : Int) + exponent - 1 =
        ((Decimal.digitCount significand - 1 : ℕ) : Int) + exponent := by omega
    rw [split, ten_zpow_add, zpow_natCast, scientific]
    gcongr
  · rw [ten_zpow_add, zpow_natCast, scientific]
    gcongr

/-- Decimals of one value have one place. -/
theorem position_congr (positive : 0 < significand) (otherPositive : 0 < other)
    (same : scientific significand exponent = scientific other otherExponent) :
    (Decimal.digitCount significand : Int) + exponent =
      (Decimal.digitCount other : Int) + otherExponent := by
  obtain ⟨lower, upper⟩ := scientific_bounds positive exponent
  obtain ⟨otherLower, otherUpper⟩ := scientific_bounds otherPositive otherExponent
  rw [same] at lower upper
  have first := (zpow_lt_zpow_iff_right₀ (by norm_num)).mp (lower.trans_lt otherUpper)
  have second := (zpow_lt_zpow_iff_right₀ (by norm_num)).mp (otherLower.trans_lt upper)
  omega

theorem cast_quotient (significand : Nat) (exponent : Int) :
    ((significand * Nat.pow 10 exponent.toNat : ℕ) : ℚ) / (Nat.pow 10 (-exponent).toNat : ℕ) =
      scientific significand exponent := by
  simp only [Nat.pow_eq]
  push_cast
  rw [mul_div_assoc, pow_toNat_div (by norm_num), scientific]

theorem ofDecimal_eq_ofQuotient (positive : 0 < significand)
    (place : vanishing ≤ (Decimal.digitCount significand : Int) + exponent) :
    ofDecimal significand exponent =
      ofQuotient (significand * Nat.pow 10 exponent.toNat) (Nat.pow 10 (-exponent).toNat) := by
  rw [ofDecimal, if_neg]
  simp only [Bool.or_eq_true, decide_eq_true_iff]
  omega

theorem ofDecimal_of_vanishing
    (vanishes : significand = 0 ∨
      (Decimal.digitCount significand : Int) + exponent < vanishing) :
    ofDecimal significand exponent = ⟨0, 0⟩ := by
  rw [ofDecimal, if_pos]
  simpa only [Bool.or_eq_true, decide_eq_true_iff] using vanishes

theorem ten_pow_pos (digits : Nat) : 0 < Nat.pow 10 digits := Nat.pow_pos (by norm_num)

/-- Decimals of one value stand for one double. -/
theorem ofDecimal_congr (positive : 0 < significand) (otherPositive : 0 < other)
    (same : scientific significand exponent = scientific other otherExponent) :
    ofDecimal significand exponent = ofDecimal other otherExponent := by
  have samePlace := position_congr positive otherPositive same
  by_cases vanishes : (Decimal.digitCount significand : Int) + exponent < vanishing
  · rw [ofDecimal_of_vanishing (.inr vanishes),
      ofDecimal_of_vanishing (.inr (samePlace ▸ vanishes))]
  · have place := not_lt.mp vanishes
    rw [ofDecimal_eq_ofQuotient positive place,
      ofDecimal_eq_ofQuotient otherPositive (samePlace ▸ place)]
    refine ofQuotient_congr (Nat.mul_pos positive (ten_pow_pos _)) (ten_pow_pos _)
      (Nat.mul_pos otherPositive (ten_pow_pos _)) (ten_pow_pos _) ?_
    rw [← cast_quotient, ← cast_quotient,
      div_eq_div_iff (Nat.cast_ne_zero.mpr (ten_pow_pos _).ne')
        (Nat.cast_ne_zero.mpr (ten_pow_pos _).ne')] at same
    exact_mod_cast same

/-- A decimal that does not stand for zero stands for a double that is near. -/
theorem isNear_ofDecimal (some : 0 < (ofDecimal significand exponent).significand) :
    0 < significand ∧
      IsNear (scientific significand exponent) (ofDecimal significand exponent) := by
  by_cases vanishes : significand = 0 ∨
      (Decimal.digitCount significand : Int) + exponent < vanishing
  · rw [ofDecimal_of_vanishing vanishes] at some
    exact absurd some (Nat.lt_irrefl 0)
  · obtain ⟨notZero, place⟩ := not_or.mp vanishes
    have positive := Nat.pos_of_ne_zero notZero
    refine ⟨positive, ?_⟩
    rw [ofDecimal_eq_ofQuotient positive (not_lt.mp place), ← cast_quotient]
    exact isNear_ofQuotient (Nat.mul_pos positive (ten_pow_pos _)) (ten_pow_pos _)

/-- Decimals far in front of the point are smaller than all doubles above zero. -/
theorem tiny_lt_least : (10 : ℚ) ^ (-331 : Int) < 3 / 4 * 2 ^ (-1074 : Int) := by
  -- a power of two with 33 bits has ten digits
  have two : (2 : ℚ) ^ 1074 = (2 ^ 33) ^ 32 * 2 ^ 18 := by rw [← pow_mul, ← pow_add]
  have ten : (10 : ℚ) ^ 331 = (10 ^ 10) ^ 32 * 10 ^ 11 := by rw [← pow_mul, ← pow_add]
  have powers : ((2 : ℚ) ^ 33) ^ 32 ≤ (10 ^ 10) ^ 32 :=
    pow_le_pow_left₀ (by norm_num) (by norm_num) 32
  have twoInverse : (2 : ℚ) ^ (-1074 : Int) = 1 / 2 ^ 1074 := by rw [one_div, zpow_neg]; rfl
  have tenInverse : (10 : ℚ) ^ (-331 : Int) = 1 / 10 ^ 331 := by rw [one_div, zpow_neg]; rfl
  have twoPositive : (0 : ℚ) < (2 ^ 33) ^ 32 := by positivity
  have tenPositive : (0 : ℚ) < (10 ^ 10) ^ 32 := by positivity
  rw [twoInverse, tenInverse, two, ten]
  generalize ((2 : ℚ) ^ 33) ^ 32 = twos at *
  generalize ((10 : ℚ) ^ 10) ^ 32 = tens at *
  rw [div_mul_div_comm, div_lt_div_iff₀ (by positivity) (by positivity)]
  linarith only [powers, tenPositive]

/-- A decimal that is nearer to a double above zero than a quarter of its unit stands for it. -/
theorem ofDecimal_eq_of_near {double : Double} (canonical : double.IsCanonical)
    (some : 0 < double.significand)
    (nearer : |scientific significand exponent - double.toRat| < 1 / 4 * 2 ^ double.exponent) :
    ofDecimal significand exponent = double := by
  have unitPositive : (0 : ℚ) < 2 ^ double.exponent := by positivity
  have someRat : (1 : ℚ) ≤ double.significand := by exact_mod_cast some
  have least : (2 : ℚ) ^ (-1074 : Int) ≤ 2 ^ double.exponent :=
    zpow_le_zpow_right₀ (by norm_num) canonical.least
  have above : 3 / 4 * 2 ^ (-1074 : Int) < scientific significand exponent := by
    have lower := (abs_lt.mp nearer).1
    rw [toRat] at lower
    nlinarith
  have positive : 0 < significand := by
    rcases Nat.eq_zero_or_pos significand with rfl | positive
    · have leastPositive : (0 : ℚ) < 2 ^ (-1074 : Int) := by positivity
      rw [scientific, Nat.cast_zero, zero_mul] at above
      linarith
    · exact positive
  have place : vanishing ≤ (Decimal.digitCount significand : Int) + exponent := by
    by_contra vanishes
    have upper := (scientific_bounds positive exponent).2
    have small : (10 : ℚ) ^ ((Decimal.digitCount significand : Int) + exponent) ≤
        10 ^ (-331 : Int) :=
      zpow_le_zpow_right₀ (by norm_num) (by rw [vanishing] at vanishes; omega)
    linarith [tiny_lt_least]
  rw [ofDecimal_eq_ofQuotient positive place]
  refine ofQuotient_eq_of_near (Nat.mul_pos positive (ten_pow_pos _)) (ten_pow_pos _)
    canonical ?_
  rwa [cast_quotient]

end Decimals

/-! ## Shortest decimals -/

section Shortest

variable {double : Double} {significand : Nat} {exponent position : Int}

/-- The decimal with some digits is at most half a unit of the last one away from a double. -/
theorem abs_toDecimal_sub_le (double : Double) (position : Int) (digits : Nat) :
    |scientific (double.toDecimal position digits).1 (double.toDecimal position digits).2 -
        double.toRat| ≤ 1 / 2 * 10 ^ (position - digits) := by
  have unitPositive : (0 : ℚ) < 10 ^ (position - digits) := by positivity
  have divisorPositive : 0 < Nat.pow 2 (-double.exponent).toNat *
      Nat.pow 10 (position - digits).toNat :=
    Nat.mul_pos (Nat.pow_pos (by norm_num)) (ten_pow_pos _)
  have near := abs_roundQuotient_sub_le divisorPositive
    (double.significand * Nat.pow 2 double.exponent.toNat *
      Nat.pow 10 (-(position - digits)).toNat)
  have isQuotient :
      ((double.significand * Nat.pow 2 double.exponent.toNat *
            Nat.pow 10 (-(position - digits)).toNat : ℕ) : ℚ) /
          ((Nat.pow 2 (-double.exponent).toNat * Nat.pow 10 (position - digits).toNat : ℕ) : ℚ) =
        double.toRat / 10 ^ (position - digits) := by
    have two := pow_toNat_div (by norm_num : (2 : ℚ) ≠ 0) double.exponent
    have ten := pow_toNat_div (by norm_num : (10 : ℚ) ≠ 0) (position - digits)
    simp only [Nat.pow_eq]
    push_cast
    rw [toRat, ← two, ← ten]
    field_simp
  rw [isQuotient] at near
  have isScaled : double.toRat / 10 ^ (position - digits) * 10 ^ (position - digits) =
      double.toRat :=
    div_mul_cancel₀ _ unitPositive.ne'
  rw [scientific, toDecimal]
  dsimp only
  rw [← isScaled, ← sub_mul, abs_mul, abs_of_pos unitPositive]
  gcongr

/-- The search for a shortest decimal ends at one that stands for the double, if the last
decimal that it comes to does. -/
theorem ofDecimal_shortestFrom {last : Nat}
    (enough : ofDecimal (double.toDecimal position last).1 (double.toDecimal position last).2 =
      double) (fuel digits : Nat) (isLast : digits + fuel = last) :
    ofDecimal (double.shortestFrom position fuel digits).1
      (double.shortestFrom position fuel digits).2 = double := by
  induction fuel generalizing digits with
  | zero =>
      rw [add_zero] at isLast
      rw [shortestFrom, isLast, enough]
  | succ fuel ih =>
      rw [shortestFrom]
      split
      next stands => exact stands
      next => exact ih (digits + 1) (by omega)

/-- A double above zero is told apart by eighteen digits. -/
theorem ofDecimal_toDecimal {number : ℚ} (isNear : IsNear number double)
    (some : 0 < double.significand) (lower : 10 ^ (position - 1) ≤ number) :
    ofDecimal (double.toDecimal position 18).1 (double.toDecimal position 18).2 = double := by
  refine ofDecimal_eq_of_near isNear.canonical some ((abs_toDecimal_sub_le _ _ _).trans_lt ?_)
  -- a double has at most 53 bits, and two units of the last digit are less than one bit
  have upper := (abs_le.mp isNear.near).1
  have fits : (double.significand : ℚ) + 1 ≤ 2 ^ 53 := by
    exact_mod_cast Nat.succ_le_of_lt isNear.canonical.fits
  have unitPositive : (0 : ℚ) < 2 ^ double.exponent := by positivity
  have inUnits := mul_le_mul_of_nonneg_right fits unitPositive.le
  have split : (10 : ℚ) ^ (position - 1) = 10 ^ 17 * 10 ^ (position - (18 : Nat)) := by
    rw [← zpow_natCast (10 : ℚ) 17, ← ten_zpow_add]
    congr 1
    push_cast
    omega
  rw [toRat] at upper
  rw [split] at lower
  generalize (10 : ℚ) ^ (position - (18 : Nat)) = lastDigit at *
  generalize (2 : ℚ) ^ double.exponent = unit at *
  norm_num at lower inUnits
  linarith only [lower, upper, inUnits, unitPositive]

/-- The shortest decimal stands for the same double. -/
theorem ofDecimal_shortest (some : 0 < (ofDecimal significand exponent).significand) :
    ofDecimal (shortest significand exponent).1 (shortest significand exponent).2 =
      ofDecimal significand exponent := by
  obtain ⟨positive, isNear⟩ := isNear_ofDecimal some
  exact ofDecimal_shortestFrom
    (ofDecimal_toDecimal isNear some (scientific_bounds positive exponent).1) mostDigits 1 rfl

end Shortest

/-! ## Finite doubles -/

section Finite

variable {significand : Nat} {exponent : Int}

theorem cast_pow_eq (base digits : Nat) :
    ((Nat.pow base digits : ℕ) : ℚ) = (base : ℚ) ^ (digits : Int) := by
  rw [Nat.pow_eq, Nat.cast_pow, zpow_natCast]

theorem finiteLimit_bounds :
    (10 : ℚ) ^ (308 : Int) < Reader.finiteLimit ∧
      (Reader.finiteLimit : ℚ) < 10 ^ (310 : Int) := by
  have lower : Nat.pow 10 308 < Reader.finiteLimit := by decide +kernel
  have upper : Reader.finiteLimit < Nat.pow 10 310 := by decide +kernel
  rw [← @Nat.cast_lt ℚ] at lower upper
  exact ⟨(cast_pow_eq 10 308).symm.trans_lt lower, upper.trans_eq (cast_pow_eq 10 310)⟩

theorem scientific_lt_natCast_iff (significand : Nat) (exponent : Int) (limit : Nat) :
    scientific significand exponent < limit ↔
      significand * Nat.pow 10 exponent.toNat < limit * Nat.pow 10 (-exponent).toNat := by
  rw [← cast_quotient, div_lt_iff₀ (Nat.cast_pos.mpr (ten_pow_pos _))]
  exact_mod_cast Iff.rfl

/-- A decimal is finite if it is below the limit of finite doubles. -/
theorem isFinite_iff (significand : Nat) (exponent : Int) :
    Reader.isFinite significand exponent = true ↔
      scientific significand exponent < Reader.finiteLimit := by
  obtain ⟨limitLower, limitUpper⟩ := finiteLimit_bounds
  rcases Nat.eq_zero_or_pos significand with rfl | positive
  · refine iff_of_true rfl ?_
    rw [scientific, Nat.cast_zero, zero_mul]
    exact lt_trans (by positivity) limitLower
  · obtain ⟨lower, upper⟩ := scientific_bounds positive exponent
    unfold Reader.isFinite
    dsimp only
    rw [← Decimal.digitCount_eq positive]
    split
    next small =>
      have place : (Decimal.digitCount significand : Int) + exponent ≤ 308 := by
        simpa [positive.ne'] using small
      refine iff_of_true rfl (upper.trans_le ((zpow_le_zpow_right₀ ?_ place).trans limitLower.le))
      norm_num
    next notSmall =>
      split
      next large =>
        have place : (310 : Int) ≤ (Decimal.digitCount significand : Int) + exponent - 1 := by omega
        have large := zpow_le_zpow_right₀ (show (1 : ℚ) ≤ 10 by norm_num) place
        exact iff_of_false Bool.false_ne_true (not_lt.mpr (limitUpper.le.trans (large.trans lower)))
      next notLarge =>
        split
        next negative =>
          have noWhole : exponent.toNat = 0 := by omega
          have digits : (-exponent).toNat = exponent.natAbs := by omega
          rw [decide_eq_true_iff, scientific_lt_natCast_iff, noWhole, digits]
          simp only [Nat.pow_eq, pow_zero, mul_one]
        next notNegative =>
          have noFraction : (-exponent).toNat = 0 := by omega
          rw [decide_eq_true_iff, scientific_lt_natCast_iff, noFraction]
          simp only [Nat.pow_eq, pow_zero, mul_one]

theorem finiteLimit_eq : (Reader.finiteLimit : ℚ) = (2 ^ 54 - 1) * 2 ^ (970 : Int) := by
  have parts : Reader.finiteLimit = (2 ^ 54 - 1) * Nat.pow 2 970 := by decide +kernel
  rw [parts, Nat.cast_mul, cast_pow_eq 2 970, Nat.cast_sub (by norm_num), Nat.cast_pow,
    Nat.cast_one]
  rfl

theorem ofQuotient_finiteLimit : ofQuotient Reader.finiteLimit 1 = ⟨2 ^ 52, 972⟩ := by
  decide +kernel

theorem ofDecimal_of_eq_finiteLimit (positive : 0 < significand)
    (isLimit : scientific significand exponent = Reader.finiteLimit) :
    (ofDecimal significand exponent).exponent = 972 := by
  have limitPositive : 0 < Reader.finiteLimit := by decide +kernel
  have place : vanishing ≤ (Decimal.digitCount significand : Int) + exponent := by
    have upper := (scientific_bounds positive exponent).2
    rw [isLimit] at upper
    by_contra vanishes
    have small : (10 : ℚ) ^ ((Decimal.digitCount significand : Int) + exponent) ≤ 1 :=
      zpow_le_one_of_nonpos₀ (by norm_num) (by rw [vanishing] at vanishes; omega)
    have one : (1 : ℚ) ≤ Reader.finiteLimit := by exact_mod_cast limitPositive
    linarith
  rw [← cast_quotient, div_eq_iff (Nat.cast_ne_zero.mpr (ten_pow_pos _).ne')] at isLimit
  rw [ofDecimal_eq_ofQuotient positive place,
    ofQuotient_congr (Nat.mul_pos positive (ten_pow_pos _)) (ten_pow_pos _) limitPositive
      Nat.one_pos (by rw [mul_one]; exact_mod_cast isLimit), ofQuotient_finiteLimit]

/-- A number next to a finite double is not above the limit. -/
theorem IsNear.le_finiteLimit {number : ℚ} {double : Double} (isNear : IsNear number double)
    (small : double.exponent ≤ 971) : number ≤ Reader.finiteLimit := by
  have lower := (abs_le.mp isNear.near).1
  have fits : (double.significand : ℚ) + 1 ≤ 2 ^ 53 := by
    exact_mod_cast Nat.succ_le_of_lt isNear.canonical.fits
  have unitPositive : (0 : ℚ) < 2 ^ double.exponent := by positivity
  have inUnits := mul_le_mul_of_nonneg_right fits unitPositive.le
  have unit : (2 : ℚ) ^ double.exponent ≤ 2 ^ (970 + 1 : Int) :=
    zpow_le_zpow_right₀ (by norm_num) small
  rw [zpow_add_one₀ (by norm_num)] at unit
  rw [toRat] at lower
  rw [finiteLimit_eq]
  generalize (2 : ℚ) ^ double.exponent = own at *
  generalize (2 : ℚ) ^ (970 : Int) = start at *
  linarith only [lower, inUnits, unit]

/-- A number next to a double that is not finite is not below the limit. -/
theorem IsNear.finiteLimit_le {number : ℚ} {double : Double} (isNear : IsNear number double)
    (large : 971 < double.exponent) : (Reader.finiteLimit : ℚ) ≤ number := by
  have full := isNear.canonical.full.resolve_left (by omega)
  have unitPositive : (0 : ℚ) < 2 ^ double.exponent := by positivity
  have above : ((2 : ℚ) ^ 52 - 1 / 4) * 2 ^ double.exponent ≤ number := by
    rcases Nat.eq_or_lt_of_le full with isLeast | more
    · have nearLeast := isNear.nearLeast isLeast.symm (by omega)
      rw [toRat, ← isLeast] at nearLeast
      push_cast at nearLeast
      linarith only [nearLeast]
    · have moreRat : (2 : ℚ) ^ 52 + 1 ≤ double.significand := by
        exact_mod_cast Nat.succ_le_of_lt more
      have inUnits := mul_le_mul_of_nonneg_right moreRat unitPositive.le
      have upper := (abs_le.mp isNear.near).2
      rw [toRat] at upper
      linarith only [upper, inUnits, unitPositive]
  have unit : (2 : ℚ) ^ (970 + 2 : Int) ≤ 2 ^ double.exponent :=
    zpow_le_zpow_right₀ (by norm_num) large
  rw [zpow_add₀ (by norm_num)] at unit
  rw [finiteLimit_eq]
  generalize (2 : ℚ) ^ double.exponent = own at *
  generalize (2 : ℚ) ^ (970 : Int) = start at *
  norm_num at above unit
  linarith only [above, unit]

/-- A decimal is finite exactly if the double that it stands for has an exponent of a finite
one. -/
theorem isFinite_iff_exponent (some : 0 < (ofDecimal significand exponent).significand) :
    Reader.isFinite significand exponent = true ↔
      (ofDecimal significand exponent).exponent ≤ 971 := by
  obtain ⟨positive, isNear⟩ := isNear_ofDecimal some
  rw [isFinite_iff]
  constructor
  · intro less
    by_contra large
    exact absurd (isNear.finiteLimit_le (not_le.mp large)) (not_le.mpr less)
  · intro small
    refine lt_of_le_of_ne (isNear.le_finiteLimit small) fun isLimit => ?_
    have exponent := ofDecimal_of_eq_finiteLimit positive isLimit
    omega

end Finite

end Tenancy.Json.Double
