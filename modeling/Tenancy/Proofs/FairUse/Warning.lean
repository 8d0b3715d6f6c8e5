import Tenancy.Proofs.FairUse.Rounding
import Tenancy.Proofs.Quantity.Binary

/-!
# What a warning shows

A warning shows the ratio of a namespace and the limit that it is compared to.  Both are read back
as the numbers that are compared, as long as they have no more than a hundred digits.
-/

namespace Tenancy

open Decimal (IsShort)
open Quantity (CountsAll InReach IsExact IsMultiple formatBinary parse)

namespace Ratio

/-- A warning as it is sent, with the ratio and the limit that it shows. -/
def warningOf (shownRatio shownLimit : String) : String :=
  "Current memory to CPU ratio of " ++ shownRatio ++
    "/core in this namespace is below the fair use ratio of " ++ shownLimit ++
    "/core. This can lead to additional costs, see " ++ explanation

/-- A ratio that is there is shown next to the limit. -/
theorem warning_eq_warningOf {ratio : Ratio} {bytes : Int} (isRatio : ratio.perCore? = some bytes)
    (limit : Decimal) : ratio.warning (some limit) =
      warningOf (formatBinary (.ofInt bytes)) (formatBinary limit) := by
  have between : "/core in this namespace is below the fair use ratio of " =
      "/core" ++ (" in this namespace" ++ " is below the fair use ratio of ") := by decide
  unfold warning warningOf
  dsimp only
  rw [text, isRatio, between]
  simp only [String.append_assoc]

end Ratio

/-- A number of bytes is written exactly if and only if it is in reach of an exponent and the units
that are counted make up all of it, which they do of a number of no more than a hundred digits.
What is written of any number can be read exactly if the number is in reach of an exponent, and is
then off by less than a hundred digits tell apart.  A warning shows the ratio and the limit that are
compared, written so. -/
theorem Quantity.formatBinary_exact (bytes : Decimal) (ratio : Ratio) (limit : Decimal) :
    (IsExact (formatBinary bytes) bytes.toRat ↔ InReach bytes.toRat ∧ CountsAll bytes) ∧
      (IsShort bytes.toRat → CountsAll bytes) ∧
      ((∃ number, parse (formatBinary bytes) = .ok number) ↔ InReach bytes.toRat) ∧
      (∀ number, parse (formatBinary bytes) = .ok number →
        |number.toRat - bytes.toRat| ≤ |bytes.toRat| / (2 * 10 ^ 99)) ∧
      ∀ perCore : ℤ, ratio.perCore? = some perCore →
        ratio.warning (some limit) =
            Ratio.warningOf (formatBinary (.ofInt perCore)) (formatBinary limit) ∧
          (ratio.isBelow limit = true ↔ (perCore : ℚ) < limit.toRat) ∧
          (IsShort perCore → IsExact (formatBinary (.ofInt perCore)) perCore) ∧
          (IsShort limit.toRat → InReach limit.toRat →
            IsExact (formatBinary limit) limit.toRat) := by
  refine ⟨isExact_formatBinary_iff bytes, countsAll_of_isShort,
    exists_parse_formatBinary_iff bytes, fun number => abs_sub_le_of_parse_formatBinary,
    fun perCore isRatio => ?_⟩
  refine ⟨Ratio.warning_eq_warningOf isRatio limit, Ratio.isBelow_iff_of_perCore? isRatio, ?_,
    isExact_formatBinary⟩
  intro short
  have inReach := inReach_intCast perCore
  rw [← Decimal.toRat_ofInt] at short inReach ⊢
  exact isExact_formatBinary short inReach

namespace Ratio

/-! ### A namespace below the limit -/

/-- One core with 4264 mebibytes. -/
def sampleLow : Ratio := ⟨.ofInt 1, .ofInt 4471128064⟩

/-- The warning that the ratio of the sample is below eight gibibytes shows both exactly. -/
theorem warning_sampleLow :
    sampleLow.warning (some (.ofInt 8589934592)) = warningOf "4264Mi" "8Gi" ∧
      sampleLow.isBelow (.ofInt 8589934592) = true ∧
      IsExact "4264Mi" 4471128064 ∧ IsExact "8Gi" 8589934592 := by
  have isRatio : sampleLow.perCore? = some 4471128064 := by decide +kernel
  have ratioText : formatBinary (.ofInt 4471128064) = "4264Mi" := by decide +kernel
  have limitText : formatBinary (.ofInt 8589934592) = "8Gi" := by decide +kernel
  obtain ⟨-, -, -, -, shows⟩ :=
    Quantity.formatBinary_exact (.ofInt 8589934592) sampleLow (.ofInt 8589934592)
  obtain ⟨isWarning, isBelow_iff, ratioExact, limitExact⟩ := shows 4471128064 isRatio
  rw [ratioText, limitText] at isWarning
  rw [ratioText] at ratioExact
  rw [limitText, Decimal.toRat_ofInt] at limitExact
  rw [Decimal.toRat_ofInt] at isBelow_iff
  refine ⟨isWarning, isBelow_iff.mpr (by norm_num), ?_, ?_⟩
  · exact_mod_cast ratioExact (Decimal.isShort_intCast (by norm_num))
  · exact_mod_cast limitExact (Decimal.isShort_intCast (by norm_num))
      (Quantity.inReach_intCast 8589934592)

/-! ### A number that is too long -/

/-- A byte more than ten to the 97th kibibytes, which is a number of 101 digits. -/
def sampleLong : Decimal := .ofInt (1024 * 10 ^ 97 + 1)

/-- Not every number is written exactly: an odd one can be written as whole kibibytes. -/
theorem exists_formatBinary_ne :
    ∃ (text : String) (bytes number : Decimal), parse text = .ok bytes ∧
      parse (formatBinary bytes) = .ok number ∧ number.toRat ≠ bytes.toRat ∧
      "Ki".toList <:+ (formatBinary bytes).toList ∧ ¬IsMultiple bytes.toRat 10 := by
  have isWritten : formatBinary sampleLong = toString (10 ^ 97 : ℤ) ++ "Ki" := by decide +kernel
  have isValue : sampleLong.toRat = (1024 * 10 ^ 97 + 1 : ℤ) := Decimal.toRat_ofInt _
  have isRead : parse (toString (1024 * 10 ^ 97 + 1 : ℤ)) = .ok sampleLong := by decide +kernel
  have isOther : parse (toString (10 ^ 97 : ℤ) ++ "Ki") = .ok (.ofInt (1024 * 10 ^ 97)) := by
    decide +kernel
  refine ⟨_, sampleLong, .ofInt (1024 * 10 ^ 97), isRead, isWritten ▸ isOther, ?_, ?_, ?_⟩
  · rw [isValue, Decimal.toRat_ofInt]
    norm_num
  · rw [isWritten, String.toList_append]
    exact List.suffix_append _ _
  · rintro ⟨units, -, isMultiple⟩
    rw [isValue] at isMultiple
    have same : (1024 * 10 ^ 97 + 1 : ℤ) = units * 2 ^ 10 := by exact_mod_cast isMultiple
    omega

end Ratio

end Tenancy
