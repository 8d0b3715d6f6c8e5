import Mathlib.Algebra.Order.Archimedean.Basic
import Mathlib.Algebra.Order.Field.Power
import Mathlib.Data.Nat.Cast.Order.Field
import Mathlib.Data.Rat.Cast.Order
import Mathlib.Tactic.FieldSimp
import Mathlib.Tactic.Linarith
import Mathlib.Tactic.NormNum
import Mathlib.Tactic.Positivity
import Mathlib.Tactic.Ring
import Tenancy.Json.Double

/-!
# Doubles next to numbers

A number is rounded to a double by its value alone, however it is given as a quotient.  A
number that is nearer to a double than a quarter of the gap behind it is rounded to that
double.
-/

namespace Tenancy.Json.Double

/-- The value of a double. -/
def toRat (double : Double) : ℚ := double.significand * 2 ^ double.exponent

/-- A double has 53 bits, the first of which is set unless its exponent is the least. -/
structure IsCanonical (double : Double) : Prop where
  fits : double.significand < 2 ^ 53
  least : -1074 ≤ double.exponent
  full : double.exponent = -1074 ∨ 2 ^ 52 ≤ double.significand

/-! ## Quotients -/

theorem roundQuotient_bounds {divisor : Nat} (positive : 0 < divisor) (dividend : Nat) :
    2 * (roundQuotient dividend divisor * divisor) ≤ 2 * dividend + divisor ∧
      2 * dividend ≤ 2 * (roundQuotient dividend divisor * divisor) + divisor := by
  have parts := Nat.div_add_mod' dividend divisor
  have small := Nat.mod_lt dividend positive
  unfold roundQuotient
  dsimp only
  split
  next below =>
    have isBelow : 2 * (dividend % divisor) ≤ divisor := by
      rcases Bool.or_eq_true_iff.mp below with less | tie
      · exact (of_decide_eq_true less).le
      · exact (eq_of_beq (Bool.and_eq_true_iff.mp tie).1).le
    omega
  next notBelow =>
    have isAbove : divisor ≤ 2 * (dividend % divisor) := by
      by_contra less
      exact notBelow (Bool.or_eq_true_iff.mpr (.inl (decide_eq_true (by omega))))
    rw [Nat.add_mul, one_mul]
    omega

/-- A quotient is rounded to an integer at most a half away from it. -/
theorem abs_roundQuotient_sub_le {divisor : Nat} (positive : 0 < divisor) (dividend : Nat) :
    |(roundQuotient dividend divisor : ℚ) - dividend / divisor| ≤ 1 / 2 := by
  have isPositive : (0 : ℚ) < divisor := Nat.cast_pos.mpr positive
  obtain ⟨upper, lower⟩ := roundQuotient_bounds positive dividend
  have upperRat :
      2 * ((roundQuotient dividend divisor : ℚ) * divisor) ≤ 2 * dividend + divisor := by
    exact_mod_cast upper
  have lowerRat :
      2 * (dividend : ℚ) ≤ 2 * (roundQuotient dividend divisor * divisor) + divisor := by
    exact_mod_cast lower
  have isQuotient : (dividend : ℚ) / divisor * divisor = dividend :=
    div_mul_cancel₀ _ isPositive.ne'
  rw [abs_le]
  constructor <;> nlinarith

/-- Rounding does not depend on a common factor. -/
theorem roundQuotient_mul_right {factor : Nat} (positive : 0 < factor) (dividend divisor : Nat) :
    roundQuotient (dividend * factor) (divisor * factor) = roundQuotient dividend divisor := by
  have remainder : 2 * (dividend % divisor * factor) = 2 * (dividend % divisor) * factor := by ring
  unfold roundQuotient
  dsimp only
  rw [Nat.mul_div_mul_right _ _ positive, Nat.mul_mod_mul_right, remainder]
  have less_iff : (2 * (dividend % divisor) * factor < divisor * factor) =
      (2 * (dividend % divisor) < divisor) :=
    propext (Nat.mul_lt_mul_right positive)
  have same_iff : (2 * (dividend % divisor) * factor == divisor * factor) =
      (2 * (dividend % divisor) == divisor) := by
    rw [Bool.eq_iff_iff, beq_iff_eq, beq_iff_eq]
    exact Nat.mul_left_inj positive.ne'
  simp only [less_iff, same_iff]

/-- Rounding depends on the value of a quotient alone. -/
theorem roundQuotient_congr {dividend divisor other otherDivisor : Nat} (positive : 0 < divisor)
    (otherPositive : 0 < otherDivisor)
    (same : dividend * otherDivisor = other * divisor) :
    roundQuotient dividend divisor = roundQuotient other otherDivisor := by
  rw [← roundQuotient_mul_right otherPositive, same, ← roundQuotient_mul_right positive other,
    Nat.mul_comm otherDivisor]

/-! ## Units -/

theorem pow_toNat_div {base : ℚ} (notZero : base ≠ 0) (exponent : Int) :
    base ^ exponent.toNat / base ^ (-exponent).toNat = base ^ exponent := by
  rw [← zpow_natCast, ← zpow_natCast, ← zpow_sub₀ notZero]
  congr 1
  omega

/-- A number in units of a power of two is rounded to an integer at most a half away. -/
theorem abs_inUnits_sub_le {divisor : Nat} (positive : 0 < divisor) (dividend : Nat)
    (exponent : Int) :
    |(inUnits dividend divisor exponent : ℚ) - dividend / divisor / 2 ^ exponent| ≤ 1 / 2 := by
  have unitPositive : 0 < divisor * Nat.pow 2 exponent.toNat :=
    Nat.mul_pos positive (Nat.pow_pos (by norm_num))
  have near := abs_roundQuotient_sub_le unitPositive (dividend * Nat.pow 2 (-exponent).toNat)
  have isQuotient : ((dividend * Nat.pow 2 (-exponent).toNat : ℕ) : ℚ) /
      ((divisor * Nat.pow 2 exponent.toNat : ℕ) : ℚ) = dividend / divisor / 2 ^ exponent := by
    have powers : (2 : ℚ) ^ (-exponent).toNat ≠ 0 := by positivity
    rw [← pow_toNat_div (by norm_num : (2 : ℚ) ≠ 0)]
    simp only [Nat.pow_eq]
    push_cast
    field_simp
  rwa [isQuotient] at near

theorem inUnits_congr {dividend divisor other otherDivisor : Nat} (positive : 0 < divisor)
    (otherPositive : 0 < otherDivisor) (same : dividend * otherDivisor = other * divisor) :
    inUnits dividend divisor = inUnits other otherDivisor := by
  funext exponent
  refine roundQuotient_congr (Nat.mul_pos positive (Nat.pow_pos (by norm_num)))
    (Nat.mul_pos otherPositive (Nat.pow_pos (by norm_num))) ?_
  calc dividend * Nat.pow 2 (-exponent).toNat * (otherDivisor * Nat.pow 2 exponent.toNat)
      = dividend * otherDivisor * (Nat.pow 2 (-exponent).toNat * Nat.pow 2 exponent.toNat) := by
        ring
    _ = other * Nat.pow 2 (-exponent).toNat * (divisor * Nat.pow 2 exponent.toNat) := by
        rw [same]
        ring

/-! ## Settling on an exponent -/

/-- The exponent at which rounding a number starts: at that one the number has no more than
54 bits, and no less than 53 unless the exponent is the least. -/
structure Starts (number : ℚ) (exponent : Int) : Prop where
  least : -1074 ≤ exponent
  above : number < 2 ^ 54 * 2 ^ exponent
  below : exponent = -1074 ∨ 2 ^ 52 * 2 ^ exponent < number

/-- Round at an exponent, or at one of the next two if there are too many bits. -/
def settle (round : Int → Nat) (exponent : Int) : Double :=
  if round exponent < 2 ^ 53 then ⟨round exponent, exponent⟩
  else if round (exponent + 1) < 2 ^ 53 then ⟨round (exponent + 1), exponent + 1⟩
  else ⟨2 ^ 52, exponent + 2⟩

theorem ofQuotient_eq_settle (dividend divisor : Nat) :
    ofQuotient dividend divisor =
      settle (inUnits dividend divisor)
        (max ((dividend.log2 : Int) - divisor.log2 - 53) leastExponent) :=
  rfl

theorem log2_bounds {number : Nat} (positive : 0 < number) :
    (2 : ℚ) ^ (number.log2 : Int) ≤ number ∧ (number : ℚ) < 2 ^ ((number.log2 : Int) + 1) := by
  have lower := Nat.log2_self_le positive.ne'
  have upper := @Nat.lt_log2_self number
  constructor
  · rw [zpow_natCast]
    exact_mod_cast lower
  · rw [← Nat.cast_succ, zpow_natCast]
    exact_mod_cast upper

/-- Rounding a quotient starts at its own exponent. -/
theorem starts_ofQuotient {dividend divisor : Nat} (dividendPositive : 0 < dividend)
    (divisorPositive : 0 < divisor) :
    Starts (dividend / divisor)
      (max ((dividend.log2 : Int) - divisor.log2 - 53) leastExponent) := by
  have two : (2 : ℚ) ≠ 0 := by norm_num
  have isPositive : (0 : ℚ) < divisor := Nat.cast_pos.mpr divisorPositive
  obtain ⟨dividendLower, dividendUpper⟩ := log2_bounds dividendPositive
  obtain ⟨divisorLower, divisorUpper⟩ := log2_bounds divisorPositive
  generalize (dividend.log2 : Int) = dividendLog at *
  generalize (divisor.log2 : Int) = divisorLog at *
  have upper : (dividend / divisor : ℚ) < 2 ^ (dividendLog - divisorLog + 1) := by
    rw [div_lt_iff₀ isPositive]
    calc (dividend : ℚ) < 2 ^ (dividendLog + 1) := dividendUpper
      _ = 2 ^ (dividendLog - divisorLog + 1) * 2 ^ divisorLog := by
        rw [← zpow_add₀ two]
        congr 1
        omega
      _ ≤ 2 ^ (dividendLog - divisorLog + 1) * divisor := by gcongr
  have lower : 2 ^ (dividendLog - divisorLog - 1) < (dividend / divisor : ℚ) := by
    rw [lt_div_iff₀ isPositive]
    calc 2 ^ (dividendLog - divisorLog - 1) * (divisor : ℚ)
        < 2 ^ (dividendLog - divisorLog - 1) * 2 ^ (divisorLog + 1) := by gcongr
      _ = 2 ^ dividendLog := by
        rw [← zpow_add₀ two]
        congr 1
        omega
      _ ≤ dividend := dividendLower
  refine ⟨le_max_right _ _, ?_, ?_⟩
  · refine upper.trans_le ?_
    rw [← zpow_natCast, ← zpow_add₀ two]
    refine zpow_le_zpow_right₀ (by norm_num) ?_
    have larger := le_max_left (dividendLog - divisorLog - 53) leastExponent
    push_cast
    omega
  · rcases max_choice (dividendLog - divisorLog - 53) leastExponent with isOwn | isLeast
    · right
      rw [isOwn, ← zpow_natCast, ← zpow_add₀ two]
      refine (Eq.le ?_).trans_lt lower
      congr 1
      push_cast
      omega
    · exact .inl isLeast

section Settle

variable {number : ℚ} {round : Int → Nat} {exponent other : Int}

/-- Rounding to an integer is settled by being nearer to it than a half. -/
theorem eq_of_near {rounded integer : Nat} {number : ℚ} (near : |(rounded : ℚ) - number| ≤ 1 / 2)
    (nearer : |number - integer| < 1 / 2) : rounded = integer := by
  have close : |(rounded : ℚ) - integer| < 1 := by
    calc |(rounded : ℚ) - integer| ≤ |(rounded : ℚ) - number| + |number - integer| :=
          abs_sub_le _ _ _
      _ < 1 := by linarith
  have closeInt : |(rounded : Int) - integer| < 1 := by exact_mod_cast close
  have same := Int.abs_lt_one_iff.mp closeInt
  omega

/-- A number in units of the power of two at which rounding starts. -/
theorem Starts.units (starts : Starts number exponent) :
    number / 2 ^ exponent < 2 ^ 54 ∧ (exponent = -1074 ∨ 2 ^ 52 < number / 2 ^ exponent) := by
  have unitPositive : (0 : ℚ) < 2 ^ exponent := by positivity
  rw [div_lt_iff₀ unitPositive, lt_div_iff₀ unitPositive]
  exact ⟨starts.above, starts.below⟩

theorem units_succ (number : ℚ) (exponent : Int) :
    number / 2 ^ (exponent + 1) = number / 2 ^ exponent / 2 := by
  rw [zpow_add_one₀ (by norm_num), div_div]

theorem units_add_two (number : ℚ) (exponent : Int) :
    number / 2 ^ (exponent + 2) = number / 2 ^ exponent / 4 := by
  rw [show exponent + 2 = exponent + 1 + 1 by omega, units_succ, units_succ, div_div]
  norm_num

theorem le_of_cast_lt_add_one {first second : Nat} (less : (first : ℚ) < second + 1) :
    first ≤ second := by
  exact_mod_cast Nat.lt_succ_iff.mp (by exact_mod_cast less)

theorem toRat_sub_eq (double : Double) (number : ℚ) :
    double.toRat - number =
      (double.significand - number / 2 ^ double.exponent) * 2 ^ double.exponent := by
  have unit : (2 : ℚ) ^ double.exponent ≠ 0 := by positivity
  rw [sub_mul, div_mul_cancel₀ _ unit, toRat]

/-- A double is canonical and at most half a unit away from a number, and if it has the least
53 bits at most a quarter above. -/
structure IsNear (number : ℚ) (double : Double) : Prop where
  canonical : double.IsCanonical
  near : |double.toRat - number| ≤ 1 / 2 * 2 ^ double.exponent
  nearLeast : double.significand = 2 ^ 52 → -1074 < double.exponent →
    double.toRat - number ≤ 1 / 4 * 2 ^ double.exponent

theorem IsNear.of_units {double : Double} (canonical : double.IsCanonical)
    (near : |(double.significand : ℚ) - number / 2 ^ double.exponent| ≤ 1 / 2)
    (nearLeast : double.significand = 2 ^ 52 → -1074 < double.exponent →
      (double.significand : ℚ) - number / 2 ^ double.exponent ≤ 1 / 4) :
    IsNear number double := by
  have unitPositive : (0 : ℚ) < 2 ^ double.exponent := by positivity
  refine ⟨canonical, ?_, fun isLeast notLeast => ?_⟩
  · rw [toRat_sub_eq, abs_mul, abs_of_pos unitPositive]
    gcongr
  · rw [toRat_sub_eq]
    exact mul_le_mul_of_nonneg_right (nearLeast isLeast notLeast) unitPositive.le

/-- Rounding settles on a double that is near. -/
theorem isNear_settle (starts : Starts number exponent)
    (near : ∀ exponent, |(round exponent : ℚ) - number / 2 ^ exponent| ≤ 1 / 2) :
    IsNear number (settle round exponent) := by
  obtain ⟨above, below⟩ := starts.units
  have least := starts.least
  have first := near exponent
  have second := near (exponent + 1)
  obtain ⟨firstLower, firstUpper⟩ := abs_le.mp first
  obtain ⟨secondLower, secondUpper⟩ := abs_le.mp second
  rw [units_succ] at secondLower secondUpper
  unfold settle
  split
  next firstFits =>
    refine .of_units ⟨firstFits, least, below.imp_right fun large => ?_⟩ first ?_
    · refine le_of_cast_lt_add_one ?_
      push_cast
      linarith
    · intro isLeast notLeast
      have large := below.resolve_left notLeast.ne'
      rw [isLeast]
      push_cast
      linarith
  next firstLarge =>
    have large : (2 : ℚ) ^ 53 ≤ round exponent := by exact_mod_cast not_lt.mp firstLarge
    split
    next secondFits =>
      refine .of_units ⟨secondFits, by simp only; omega, .inr ?_⟩ second ?_
      · refine le_of_cast_lt_add_one ?_
        push_cast
        linarith
      · intro isLeast _
        rw [isLeast, units_succ]
        push_cast
        linarith
    next secondLarge =>
      have secondBound : (2 : ℚ) ^ 53 ≤ round (exponent + 1) := by
        exact_mod_cast not_lt.mp secondLarge
      refine .of_units ⟨by norm_num, by simp only; omega, .inr le_rfl⟩ ?_ ?_
      · rw [units_add_two, abs_le]
        push_cast
        constructor <;> linarith
      · intro _ _
        rw [units_add_two]
        push_cast
        linarith

theorem two_zpow_add_natCast (exponent : Int) (steps : Nat) :
    (2 : ℚ) ^ (exponent + steps) = 2 ^ steps * 2 ^ exponent := by
  rw [zpow_add₀ (by norm_num), zpow_natCast, mul_comm]

theorem two_zpow_le {steps : Nat} (later : exponent + steps ≤ other) :
    (2 : ℚ) ^ steps * 2 ^ exponent ≤ 2 ^ other := by
  rw [← two_zpow_add_natCast]
  exact zpow_le_zpow_right₀ (by norm_num) later

/-- Rounding starts at most two exponents in front of that of a double that is very near. -/
theorem Starts.exponent_le {double : Double} (starts : Starts number exponent)
    (canonical : double.IsCanonical)
    (nearer : |number - double.toRat| < 1 / 4 * 2 ^ double.exponent) :
    exponent ≤ double.exponent ∧ double.exponent ≤ exponent + 2 := by
  have fits : (double.significand : ℚ) + 1 ≤ 2 ^ 53 := by
    exact_mod_cast Nat.succ_le_of_lt canonical.fits
  obtain ⟨lower, upper⟩ := abs_lt.mp nearer
  rw [toRat] at lower upper
  have unitPositive : (0 : ℚ) < 2 ^ double.exponent := by positivity
  have startPositive : (0 : ℚ) < 2 ^ exponent := by positivity
  constructor
  · by_contra later
    have notLeast : exponent ≠ -1074 := by have := canonical.least; omega
    have large := starts.below.resolve_left notLeast
    have larger : (2 : ℚ) ^ 1 * 2 ^ double.exponent ≤ 2 ^ exponent := two_zpow_le (by omega)
    nlinarith
  · by_contra earlier
    have notLeast : double.exponent ≠ -1074 := by have := starts.least; omega
    have full : (2 : ℚ) ^ 52 ≤ double.significand := by
      exact_mod_cast canonical.full.resolve_left notLeast
    have small := starts.above
    have larger : (2 : ℚ) ^ 3 * 2 ^ exponent ≤ 2 ^ double.exponent := two_zpow_le (by omega)
    nlinarith

/-- A number that is nearer to a double than a quarter of its unit is rounded to it. -/
theorem settle_eq_of_near (starts : Starts number exponent)
    (near : ∀ exponent, |(round exponent : ℚ) - number / 2 ^ exponent| ≤ 1 / 2) {double : Double}
    (canonical : double.IsCanonical)
    (nearer : |number - double.toRat| < 1 / 4 * 2 ^ double.exponent) :
    settle round exponent = double := by
  obtain ⟨notLater, notEarlier⟩ := starts.exponent_le canonical nearer
  obtain ⟨significand, own⟩ := double
  have unitPositive : (0 : ℚ) < 2 ^ own := by positivity
  have units : |number / 2 ^ own - significand| < 1 / 4 := by
    rw [abs_sub_comm, toRat_sub_eq, abs_mul, abs_of_pos unitPositive,
      mul_lt_mul_iff_left₀ unitPositive, abs_sub_comm] at nearer
    exact nearer
  dsimp only at notLater notEarlier
  obtain ⟨lower, upper⟩ := abs_lt.mp units
  rcases (by omega : own = exponent ∨ own = exponent + 1 ∨ own = exponent + 2) with
    rfl | rfl | rfl
  · have isRounded : round own = significand := eq_of_near (near own) (by linarith)
    rw [settle, isRounded, if_pos canonical.fits]
  · -- one bit too many at first
    have full : 2 ^ 52 ≤ significand :=
      canonical.full.resolve_left (by have := starts.least; simp only; omega)
    have isRounded : round (exponent + 1) = significand :=
      eq_of_near (near (exponent + 1)) (by linarith)
    rw [units_succ] at lower upper
    have isTwice : round exponent = 2 * significand := by
      refine eq_of_near (near exponent) ?_
      rw [abs_lt]
      push_cast
      constructor <;> linarith
    rw [settle, isTwice, if_neg (by omega), isRounded, if_pos canonical.fits]
  · -- two bits too many at first, so the double is the next power of two
    have full : 2 ^ 52 ≤ significand :=
      canonical.full.resolve_left (by have := starts.least; simp only; omega)
    rw [units_add_two] at lower upper
    have above := starts.units.1
    have isLeast : significand = 2 ^ 52 := by
      refine le_antisymm (le_of_cast_lt_add_one ?_) full
      push_cast
      linarith
    subst isLeast
    have isTwice : round (exponent + 1) = 2 ^ 53 := by
      refine eq_of_near (near (exponent + 1)) ?_
      rw [units_succ, abs_lt]
      push_cast at lower upper ⊢
      constructor <;> linarith
    have tooLarge : 2 ^ 53 ≤ round exponent := by
      refine le_of_cast_lt_add_one ?_
      have first := (abs_le.mp (near exponent)).1
      push_cast at lower upper ⊢
      linarith
    rw [settle, if_neg (not_lt.mpr tooLarge), isTwice, if_neg (lt_irrefl _)]

theorem settle_eq_of_lt (earlier : exponent < other) (starts : Starts number exponent)
    (alsoStarts : Starts number other)
    (near : ∀ exponent, |(round exponent : ℚ) - number / 2 ^ exponent| ≤ 1 / 2) :
    settle round exponent = settle round other := by
  have startPositive : (0 : ℚ) < 2 ^ exponent := by positivity
  have notLeast : other ≠ -1074 := by have := starts.least; omega
  have large := alsoStarts.below.resolve_left notLeast
  have isNext : other = exponent + 1 := by
    by_contra later
    have larger : (2 : ℚ) ^ 2 * 2 ^ exponent ≤ 2 ^ other := two_zpow_le (by omega)
    have small := starts.above
    nlinarith
  subst isNext
  have above := starts.units.1
  have units := alsoStarts.units.2.resolve_left notLeast
  have tooLarge : 2 ^ 53 ≤ round exponent := by
    refine le_of_cast_lt_add_one ?_
    have first := (abs_le.mp (near exponent)).1
    rw [units_succ] at units
    push_cast
    linarith
  rw [settle, if_neg (not_lt.mpr tooLarge), settle]
  split
  next fits => rfl
  next alsoTooLarge =>
    -- the number is just below a power of two
    have isLeast : round (exponent + 1 + 1) = 2 ^ 52 := by
      have bound : (2 : ℚ) ^ 53 ≤ round (exponent + 1) := by
        exact_mod_cast not_lt.mp alsoTooLarge
      have second := (abs_le.mp (near (exponent + 1))).2
      refine eq_of_near (near (exponent + 1 + 1)) ?_
      rw [units_succ] at second
      rw [units_succ, units_succ, abs_lt]
      push_cast
      constructor <;> linarith
    rw [isLeast, if_pos (by norm_num), add_assoc]
    rfl

/-- It does not matter at which of its exponents rounding starts. -/
theorem settle_congr (starts : Starts number exponent) (alsoStarts : Starts number other)
    (near : ∀ exponent, |(round exponent : ℚ) - number / 2 ^ exponent| ≤ 1 / 2) :
    settle round exponent = settle round other := by
  rcases lt_trichotomy exponent other with earlier | rfl | later
  · exact settle_eq_of_lt earlier starts alsoStarts near
  · rfl
  · exact (settle_eq_of_lt later alsoStarts starts near).symm

end Settle

/-! ## Rounding quotients -/

section Quotient

variable {dividend divisor other otherDivisor : Nat}

/-- A quotient is rounded to a double that is near. -/
theorem isNear_ofQuotient (dividendPositive : 0 < dividend) (divisorPositive : 0 < divisor) :
    IsNear (dividend / divisor) (ofQuotient dividend divisor) :=
  isNear_settle (starts_ofQuotient dividendPositive divisorPositive)
    (abs_inUnits_sub_le divisorPositive dividend)

/-- A quotient that is nearer to a double than a quarter of its unit is rounded to it. -/
theorem ofQuotient_eq_of_near (dividendPositive : 0 < dividend) (divisorPositive : 0 < divisor)
    {double : Double} (canonical : double.IsCanonical)
    (nearer : |(dividend / divisor : ℚ) - double.toRat| < 1 / 4 * 2 ^ double.exponent) :
    ofQuotient dividend divisor = double :=
  settle_eq_of_near (starts_ofQuotient dividendPositive divisorPositive)
    (abs_inUnits_sub_le divisorPositive dividend) canonical nearer

/-- Rounding depends on the value of a quotient alone. -/
theorem ofQuotient_congr (dividendPositive : 0 < dividend) (divisorPositive : 0 < divisor)
    (otherPositive : 0 < other) (otherDivisorPositive : 0 < otherDivisor)
    (same : dividend * otherDivisor = other * divisor) :
    ofQuotient dividend divisor = ofQuotient other otherDivisor := by
  have sameValue : (dividend / divisor : ℚ) = other / otherDivisor := by
    rw [div_eq_div_iff (by positivity) (by positivity)]
    exact_mod_cast same
  have starts := starts_ofQuotient dividendPositive divisorPositive
  rw [sameValue] at starts
  rw [ofQuotient_eq_settle, ofQuotient_eq_settle,
    inUnits_congr divisorPositive otherDivisorPositive same]
  exact settle_congr starts (starts_ofQuotient otherPositive otherDivisorPositive)
    (abs_inUnits_sub_le otherDivisorPositive other)

end Quotient

end Tenancy.Json.Double
