import Tenancy.Proofs.Decimal.Division
import Tenancy.Proofs.FairUse.Recording

/-!
# The rounded ratio next to the exact one

The ratio of memory to CPU is rounded to whole bytes first and then up to whole mebibytes.  So
it is at most a number of mebibytes exactly if the quotient is at most half a byte above that
number: a quotient that lies less than half a byte above whole mebibytes is rounded down to
them, and no other one is understated.  Next to a limit of whole mebibytes this makes no
difference: a ratio that is found to be below the limit is below it.
-/

namespace Tenancy.Ratio

theorem mebibyte_cast : (mebibyte : ℚ) = 1048576 := by
  norm_num [mebibyte]

theorem mebibyte_cast_pos : (0 : ℚ) < mebibyte := by
  rw [mebibyte_cast]
  norm_num

/-! ## Whole mebibytes -/

section Mebibytes

variable {bytes : Int}

theorem value_mebibytes (bytes : Int) :
    (Decimal.ofInt bytes).toRat / (Decimal.ofInt mebibyte).toRat = bytes / 1048576 := by
  rw [Decimal.toRat_ofInt, Decimal.toRat_ofInt, Int.cast_natCast, mebibyte_cast]

theorem mebibyte_pos : 0 < (Decimal.ofInt mebibyte).toRat := by
  rw [Decimal.toRat_ofInt, Int.cast_natCast]
  exact mebibyte_cast_pos

/-- As long as division is precise enough, bytes are rounded up to mebibytes. -/
theorem ceiling_mebibytes_le_iff (nonneg : 0 ≤ bytes) (small : bytes ≤ 10 ^ 90) (bound : Int) :
    (Decimal.ofInt bytes / Decimal.ofInt mebibyte).ceiling ≤ bound ↔ bytes ≤ bound * mebibyte := by
  have bytesNonneg : 0 ≤ (Decimal.ofInt bytes).toRat := by
    rw [Decimal.toRat_ofInt]
    exact Int.cast_nonneg nonneg
  have near := Decimal.approximates_divide bytesNonneg mebibyte_pos
  rw [value_mebibytes] at near
  have smallRat : (bytes : ℚ) ≤ 10 ^ 90 := by exact_mod_cast small
  have boundIff : bytes ≤ bound * mebibyte ↔ (bytes : ℚ) / 1048576 ≤ bound := by
    rw [div_le_iff₀ (by norm_num), ← mebibyte_cast]
    exact_mod_cast Iff.rfl
  have isSmall : (bytes : ℚ) / 1048576 < 10 ^ 90 := by linarith
  rw [Decimal.ceiling_le_iff]
  constructor
  · intro le
    have less : (bytes : ℚ) < (bound * mebibyte + 1 : ℤ) := by
      have close := near.lt_add_tiny isSmall
      push_cast
      rw [mebibyte_cast]
      linarith
    exact Int.lt_add_one_iff.mp (Int.cast_lt.mp less)
  · intro le
    exact near.le_intCast_of_small isSmall (boundIff.mp le)

end Mebibytes

/-! ## The ratio -/

variable {ratio : Ratio}

theorem perCore?_eq_none_iff (ratio : Ratio) : ratio.perCore? = none ↔ ratio.cpu.toRat ≤ 0 := by
  rw [perCore?, ← not_lt, ← Decimal.isPositive_iff]
  cases ratio.cpu.isPositive <;> simp

theorem perCore?_of_pos (positive : 0 < ratio.cpu.toRat) :
    ratio.perCore? = some ((Decimal.ofInt (ratio.memory / ratio.cpu).roundHalfEven /
      Decimal.ofInt mebibyte).ceiling * mebibyte) := by
  rw [perCore?, (Decimal.isPositive_iff _).mpr positive]
  rfl

theorem mebibyte_mul_even (bound : Int) : bound * mebibyte % 2 = 0 := by
  have isEven : (mebibyte : Int) = 2 * 524288 := rfl
  rw [isEven]
  omega

/-- The ratio is at most some whole mebibytes exactly if the quotient is at most half a byte
above them. -/
theorem exists_perCore?_eq (nonneg : 0 ≤ ratio.memory.toRat) (positive : 0 < ratio.cpu.toRat)
    (small : ratio.memory.toRat / ratio.cpu.toRat < 10 ^ 90) :
    ∃ mebibytes : Int, ratio.perCore? = some (mebibytes * mebibyte) ∧ 0 ≤ mebibytes ∧
      ∀ bound : Int, mebibytes ≤ bound ↔
        (ratio.memory / ratio.cpu).toRat ≤ bound * mebibyte + 1 / 2 := by
  have near := Decimal.approximates_divide nonneg positive
  have quotientNonneg := near.toRat_nonneg (div_nonneg nonneg positive.le)
  have bytesNonneg := Decimal.roundHalfEven_nonneg quotientNonneg
  have bytesSmall : (ratio.memory / ratio.cpu).roundHalfEven ≤ 10 ^ 90 := by
    rw [Decimal.roundHalfEven_le_iff _ (by norm_num)]
    have isSmall : ratio.memory.toRat / ratio.cpu.toRat ≤ (10 ^ 90 : ℤ) := by
      exact_mod_cast small.le
    exact (near.le_intCast_of_small small isSmall).trans (le_add_of_nonneg_right (by norm_num))
  have atMost (bound : Int) :
      (Decimal.ofInt (ratio.memory / ratio.cpu).roundHalfEven /
          Decimal.ofInt mebibyte).ceiling ≤ bound ↔
        (ratio.memory / ratio.cpu).toRat ≤ bound * mebibyte + 1 / 2 := by
    rw [ceiling_mebibytes_le_iff bytesNonneg bytesSmall,
      Decimal.roundHalfEven_le_iff _ (mebibyte_mul_even bound)]
    push_cast
    rfl
  refine ⟨_, perCore?_of_pos positive, ?_, atMost⟩
  by_contra negative
  have less := (atMost (-1)).mp (by omega)
  rw [mebibyte_cast] at less
  push_cast at less
  linarith

/-- Without memory the ratio is not above zero. -/
theorem exists_perCore?_nonpos (nonpos : ratio.memory.toRat ≤ 0) (positive : 0 < ratio.cpu.toRat) :
    ∃ bytes, ratio.perCore? = some bytes ∧ bytes ≤ 0 := by
  refine ⟨_, perCore?_of_pos positive, ?_⟩
  have bytesNonpos : (ratio.memory / ratio.cpu).roundHalfEven ≤ 0 := by
    rw [Decimal.roundHalfEven_le_iff _ rfl]
    have quotientNonpos := Decimal.toRat_divide_nonpos nonpos positive
    push_cast
    linarith
  have ceilingNonpos : (Decimal.ofInt (ratio.memory / ratio.cpu).roundHalfEven /
      Decimal.ofInt mebibyte).ceiling ≤ 0 := by
    rw [Decimal.ceiling_le_iff, Int.cast_zero]
    refine Decimal.toRat_divide_nonpos ?_ mebibyte_pos
    rw [Decimal.toRat_ofInt]
    exact Int.cast_nonpos.mpr bytesNonpos
  exact mul_nonpos_of_nonpos_of_nonneg ceilingNonpos (Nat.cast_nonneg _)

/-! ## Limits -/

section Limits

variable {limit : Decimal} {mebibytes : Nat}

theorem isBelow_eq_false (notPositive : ratio.cpu.toRat ≤ 0) : ratio.isBelow limit = false := by
  rw [isBelow, (perCore?_eq_none_iff ratio).mpr notPositive]

theorem cpu_pos_of_isBelow (below : ratio.isBelow limit = true) : 0 < ratio.cpu.toRat := by
  by_contra notPositive
  rw [isBelow_eq_false (not_lt.mp notPositive)] at below
  cases below

theorem isBelow_iff_of_perCore? {bytes : Int} (isRatio : ratio.perCore? = some bytes) :
    ratio.isBelow limit = true ↔ (bytes : ℚ) < limit.toRat := by
  rw [isBelow, isRatio]
  exact (Decimal.isBelow_iff _ _).trans (by rw [Decimal.toRat_ofInt])

/-- A ratio is below whole mebibytes if its quotient is at most half a byte above the mebibytes
before them. -/
theorem isBelow_iff_of_mebibytes (isWhole : limit.toRat = mebibytes * mebibyte)
    (nonneg : 0 ≤ ratio.memory.toRat) (positive : 0 < ratio.cpu.toRat)
    (small : ratio.memory.toRat / ratio.cpu.toRat < 10 ^ 90) :
    ratio.isBelow limit = true ↔
      (ratio.memory / ratio.cpu).toRat ≤ limit.toRat - mebibyte + 1 / 2 := by
  obtain ⟨found, isRatio, _, atMost⟩ := exists_perCore?_eq nonneg positive small
  have lessIff : (found : ℚ) * mebibyte < mebibytes * mebibyte ↔ found ≤ mebibytes - 1 := by
    rw [mul_lt_mul_iff_left₀ mebibyte_cast_pos, Int.le_sub_one_iff]
    exact_mod_cast Iff.rfl
  rw [isBelow_iff_of_perCore? isRatio, isWhole]
  push_cast
  rw [lessIff, atMost]
  push_cast
  rw [sub_one_mul]

/-- What division leaves out is less than the half byte by which a limit is missed. -/
theorem lt_of_isBelow (isWhole : limit.toRat = mebibytes * mebibyte)
    (nonneg : 0 ≤ ratio.memory.toRat) (positive : 0 < ratio.cpu.toRat)
    (small : ratio.memory.toRat / ratio.cpu.toRat < 10 ^ 90)
    (below : ratio.isBelow limit = true) :
    ratio.memory.toRat < limit.toRat * ratio.cpu.toRat := by
  rw [isBelow_iff_of_mebibytes isWhole nonneg positive small, mebibyte_cast] at below
  have close := (Decimal.approximates_divide nonneg positive).lt_add_tiny small
  rw [← div_lt_iff₀ positive]
  linarith

/-- Division does not lead across a whole number of bytes. -/
theorem isBelow_of_le (isWhole : limit.toRat = mebibytes * mebibyte)
    (nonneg : 0 ≤ ratio.memory.toRat) (positive : 0 < ratio.cpu.toRat)
    (small : ratio.memory.toRat / ratio.cpu.toRat < 10 ^ 90)
    (within : ratio.memory.toRat ≤ (limit.toRat - mebibyte) * ratio.cpu.toRat) :
    ratio.isBelow limit = true := by
  have isInteger : limit.toRat - mebibyte = ((mebibytes - 1) * mebibyte : ℤ) := by
    rw [isWhole]
    push_cast
    ring
  rw [isBelow_iff_of_mebibytes isWhole nonneg positive small]
  rw [← div_le_iff₀ positive, isInteger] at within
  have quotientWithin :=
    (Decimal.approximates_divide nonneg positive).le_intCast_of_small small within
  rw [isInteger]
  exact quotientWithin.trans (le_add_of_nonneg_right (by norm_num))

/-- Next to a limit of whole mebibytes a ratio is told apart to one mebibyte: only a quotient
below the limit is found to be below it, and every one that is so by a mebibyte. -/
theorem isBelow_mebibytes (ratio : Ratio) (limit : Decimal) (mebibytes : Nat)
    (limitPositive : 0 < mebibytes) (isWhole : limit.toRat = mebibytes * mebibyte)
    (small : ratio.memory.toRat < 10 ^ 90 * ratio.cpu.toRat ∨ ratio.cpu.toRat = 0) :
    (ratio.isBelow limit = true →
        0 < ratio.cpu.toRat ∧ ratio.memory.toRat < limit.toRat * ratio.cpu.toRat) ∧
      (0 < ratio.cpu.toRat →
        ratio.memory.toRat ≤ (limit.toRat - mebibyte) * ratio.cpu.toRat →
          ratio.isBelow limit = true) ∧
      (ratio.cpu.toRat = 0 → ratio.isBelow limit = false) := by
  have quotientSmall (positive : 0 < ratio.cpu.toRat) :
      ratio.memory.toRat / ratio.cpu.toRat < 10 ^ 90 := by
    rw [div_lt_iff₀ positive]
    exact small.resolve_right positive.ne'
  have limitAbove : 0 < limit.toRat := by
    rw [isWhole]
    exact mul_pos (by exact_mod_cast limitPositive) mebibyte_cast_pos
  refine ⟨fun below => ?_, fun positive within => ?_, fun vanishes => isBelow_eq_false vanishes.le⟩
  · have positive := cpu_pos_of_isBelow below
    refine ⟨positive, ?_⟩
    rcases lt_or_ge ratio.memory.toRat 0 with negative | nonneg
    · exact negative.trans (mul_pos limitAbove positive)
    · exact lt_of_isBelow isWhole nonneg positive (quotientSmall positive) below
  · rcases lt_or_ge ratio.memory.toRat 0 with negative | nonneg
    · obtain ⟨bytes, isRatio, nonpos⟩ := exists_perCore?_nonpos negative.le positive
      rw [isBelow_iff_of_perCore? isRatio]
      exact (Int.cast_nonpos.mpr nonpos).trans_lt limitAbove
    · exact isBelow_of_le isWhole nonneg positive (quotientSmall positive) within

/-- Twelve mebibytes less one byte for three cores are below five mebibytes for each. -/
theorem isBelow_sampleThirds :
    (Decimal.ofInt 12582911).toRat < 10 ^ 90 * (Decimal.ofInt 3).toRat ∧
      (⟨.ofInt 3, .ofInt 12582911⟩ : Ratio).isBelow (.ofInt (5 * mebibyte)) = true := by
  have isWhole : (Decimal.ofInt (5 * mebibyte)).toRat = (5 : ℕ) * mebibyte := by
    rw [Decimal.toRat_ofInt]
    push_cast
    rfl
  have small : (Decimal.ofInt 12582911).toRat < 10 ^ 90 * (Decimal.ofInt 3).toRat := by
    rw [Decimal.toRat_ofInt, Decimal.toRat_ofInt]
    norm_num
  obtain ⟨_, isBelow, _⟩ := isBelow_mebibytes ⟨.ofInt 3, .ofInt 12582911⟩ (.ofInt (5 * mebibyte)) 5
    (by decide) isWhole (.inl small)
  refine ⟨small, isBelow ?_ ?_⟩
  · rw [Decimal.toRat_ofInt]
    norm_num
  · rw [isWhole, Decimal.toRat_ofInt, Decimal.toRat_ofInt, mebibyte_cast]
    norm_num

end Limits

/-! ## How far a ratio is understated -/

/-- However large it is, a ratio is understated by at most half a byte and what division leaves
out. -/
theorem exists_le_perCore? (nonneg : 0 ≤ ratio.memory.toRat) (positive : 0 < ratio.cpu.toRat) :
    ∃ mebibytes : Int, ratio.perCore? = some (mebibytes * mebibyte) ∧ 0 ≤ mebibytes ∧
      (1 - 1 / 10 ^ 99) * (ratio.memory.toRat / ratio.cpu.toRat) ≤
        mebibytes * mebibyte + 1 / 2 := by
  have quotientNonneg := div_nonneg nonneg positive.le
  have near := Decimal.approximates_divide nonneg positive
  have bytesNonneg := Decimal.roundHalfEven_nonneg (near.toRat_nonneg quotientNonneg)
  have bytesClose := (ratio.memory / ratio.cpu).toRat_le_roundHalfEven_add_half
  have quotientClose := near.mul_le_toRat quotientNonneg
  have isPerCore := perCore?_of_pos positive
  generalize (ratio.memory / ratio.cpu).roundHalfEven = bytes at bytesNonneg bytesClose isPerCore
  have bytesRat : (0 : ℚ) ≤ bytes := Int.cast_nonneg bytesNonneg
  have divided := Decimal.approximates_divide
    (by rwa [Decimal.toRat_ofInt] : 0 ≤ (Decimal.ofInt bytes).toRat) mebibyte_pos
  rw [value_mebibytes] at divided
  have dividedNonneg := divided.toRat_nonneg (div_nonneg bytesRat (by norm_num))
  have dividedClose := divided.mul_le_toRat (div_nonneg bytesRat (by norm_num))
  have roundedUp := ((Decimal.ofInt bytes / Decimal.ofInt mebibyte).ceiling_le_iff _).mp le_rfl
  generalize (Decimal.ofInt bytes / Decimal.ofInt mebibyte).ceiling = mebibytes at *
  refine ⟨mebibytes, isPerCore, Int.cast_nonneg_iff.mp (dividedNonneg.trans roundedUp), ?_⟩
  have half : (0 : ℚ) ≤ 1 - 1 / (2 * 10 ^ 99) := by norm_num
  calc
    (1 - 1 / 10 ^ 99) * (ratio.memory.toRat / ratio.cpu.toRat) ≤
        (1 - 1 / (2 * 10 ^ 99)) *
          ((1 - 1 / (2 * 10 ^ 99)) * (ratio.memory.toRat / ratio.cpu.toRat)) := by
      rw [← mul_assoc]
      exact mul_le_mul_of_nonneg_right (by norm_num) quotientNonneg
    _ ≤ (1 - 1 / (2 * 10 ^ 99)) * ((bytes : ℚ) + 1 / 2) :=
      mul_le_mul_of_nonneg_left (quotientClose.trans bytesClose) half
    _ ≤ (1 - 1 / (2 * 10 ^ 99)) * (bytes : ℚ) + 1 / 2 := by linarith
    _ ≤ (mebibytes : ℚ) * mebibyte + 1 / 2 := by
      rw [mebibyte_cast]
      linarith

end Tenancy.Ratio

namespace Tenancy.Recording

/-- Totals have a ratio unless they are without CPU, and it is whole mebibytes.  It is understated
by at most half a byte and what division leaves out.  Below ten to the power of ninety it is so
where the quotient is at most half a byte above whole mebibytes, and nowhere else but for a tiny
part of a byte. -/
theorem perCore?_after_zero (recordings : List Recording) :
    let total := after .zero recordings
    let quotient := total.memory.toRat / total.cpu.toRat
    (total.perCore? = none ↔ total.cpu.toRat = 0) ∧
      (0 < total.cpu.toRat →
        ∃ mebibytes : Nat, total.perCore? = some (mebibytes * Ratio.mebibyte) ∧
          (1 - 1 / 10 ^ 99) * quotient ≤ mebibytes * Ratio.mebibyte + 1 / 2 ∧
          (quotient < 10 ^ 90 →
            (∀ whole : Nat, quotient ≤ whole * Ratio.mebibyte + 1 / 2 → mebibytes ≤ whole) ∧
              ((∀ whole : Nat, quotient ≤ whole * Ratio.mebibyte ∨
                  whole * Ratio.mebibyte + 1 / 2 + 1 / 10 ^ 10 ≤ quotient) →
                quotient ≤ mebibytes * Ratio.mebibyte))) := by
  dsimp only
  have nonneg : (after .zero recordings).IsNonneg := isNonneg_after Ratio.isNonneg_zero
  have cpuNonneg := (Decimal.coefficient_nonneg_iff _).mp nonneg.cpu
  have memoryNonneg := (Decimal.coefficient_nonneg_iff _).mp nonneg.memory
  generalize after .zero recordings = total at *
  refine ⟨?_, fun positive => ?_⟩
  · rw [Ratio.perCore?_eq_none_iff]
    exact ⟨fun nonpos => le_antisymm nonpos cpuNonneg, le_of_eq⟩
  · obtain ⟨mebibytes, isPerCore, mebibytesNonneg, close⟩ :=
      Ratio.exists_le_perCore? memoryNonneg positive
    obtain ⟨mebibytes, rfl⟩ := Int.eq_ofNat_of_zero_le mebibytesNonneg
    refine ⟨mebibytes, isPerCore, by exact_mod_cast close, fun small => ?_⟩
    obtain ⟨found, alsoPerCore, _, atMost⟩ := Ratio.exists_perCore?_eq memoryNonneg positive small
    have isFound : found = mebibytes := by
      have same := Option.some.inj (alsoPerCore.symm.trans isPerCore)
      exact Int.eq_of_mul_eq_mul_right (by decide) same
    subst isFound
    have near := Decimal.approximates_divide memoryNonneg positive
    constructor
    · intro whole within
      have withinInt : total.memory.toRat / total.cpu.toRat ≤
          (whole * Ratio.mebibyte : ℤ) + 1 / 2 := by
        exact_mod_cast within
      have atMostWhole := (atMost whole).mpr (by
        exact_mod_cast near.le_add_half_of_small small withinInt)
      exact_mod_cast atMostWhole
    · intro apart
      refine (apart mebibytes).resolve_right fun above => ?_
      have atMostFound := (atMost mebibytes).mp le_rfl
      have less := near.lt_add_tiny small
      rw [Int.cast_natCast] at atMostFound
      linarith

/-! ### A quarter of a byte above a mebibyte -/

/-- A container with four cores and a byte more than four mebibytes. -/
def sampleQuarter : List Recording := [.containers 1 [⟨.ofInt 4, .ofInt 4194305⟩]]

theorem perCore?_sampleQuarter : (after .zero sampleQuarter).perCore? = some 1048576 := by
  decide +kernel

theorem quotient_sampleQuarter :
    (after .zero sampleQuarter).cpu.toRat = 4 ∧
      (after .zero sampleQuarter).memory.toRat = 4194305 := by
  have totals : after .zero sampleQuarter = ⟨.ofInt 4, .ofInt 4194305⟩ := by decide +kernel
  rw [totals]
  exact ⟨Decimal.toRat_ofInt 4, Decimal.toRat_ofInt 4194305⟩

/-- The ratio of the sample is not above the mebibyte that the quotient exceeds by a quarter of a
byte. -/
theorem exists_perCore?_sampleQuarter :
    ∃ mebibytes : Nat,
      (after .zero sampleQuarter).perCore? = some (mebibytes * Ratio.mebibyte) ∧
        mebibytes ≤ 1 := by
  obtain ⟨isCpu, isMemory⟩ := quotient_sampleQuarter
  obtain ⟨_, bounds⟩ := perCore?_after_zero sampleQuarter
  obtain ⟨mebibytes, isPerCore, _, exactly⟩ := bounds (by
    rw [isCpu]
    norm_num)
  refine ⟨mebibytes, isPerCore, (exactly ?_).1 1 ?_⟩
  · rw [isCpu, isMemory]
    norm_num
  · rw [isCpu, isMemory, Ratio.mebibyte_cast]
    norm_num

/-- Not every ratio is at least the quotient of the totals. -/
theorem exists_perCore?_lt_quotient :
    ∃ (recordings : List Recording) (bytes : Int),
      0 < (after .zero recordings).cpu.toRat ∧
        (after .zero recordings).perCore? = some bytes ∧
        (bytes : ℚ) <
          (after .zero recordings).memory.toRat / (after .zero recordings).cpu.toRat := by
  obtain ⟨isCpu, isMemory⟩ := quotient_sampleQuarter
  refine ⟨sampleQuarter, 1048576, ?_, perCore?_sampleQuarter, ?_⟩
  · rw [isCpu]
    norm_num
  · rw [isCpu, isMemory]
    norm_num

end Tenancy.Recording
