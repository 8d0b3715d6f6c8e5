import Mathlib.Tactic.IntervalCases
import Mathlib.Tactic.Linarith
import Mathlib.Tactic.Ring
import Tenancy.Decimal.Basic
import Tenancy.Proofs.Text.Splitting
import Tenancy.Text.Digits

/-!
# Decimal digits

Reading the digits that a number is written with gives the number back.
-/

namespace Tenancy.Text

theorem decimalValue_append (first second : List Char) (before : Nat) :
    decimalValue (first ++ second) before = decimalValue second (decimalValue first before) :=
  List.foldl_append

theorem decimalValue_replicate_zero (count before : Nat) :
    decimalValue (List.replicate count '0') before = before * 10 ^ count := by
  induction count generalizing before with
  | zero => simp [decimalValue]
  | succ count ih =>
      change decimalValue (List.replicate count '0') (before * 10 + 0) = _
      rw [ih]
      ring

theorem toNat_digitChar {digit : Nat} (small : digit < 10) :
    digit.digitChar.toNat - '0'.toNat = digit := by
  interval_cases digit <;> rfl

/-- The digits of a number have its value. -/
theorem decimalValue_toDigits (number : Nat) :
    decimalValue (Nat.toDigits 10 number) 0 = number := by
  induction number using Nat.strongRecOn with
  | ind number ih =>
      rcases Nat.lt_or_ge number 10 with small | large
      · rw [Nat.toDigits_of_lt_base small]
        change 0 * 10 + _ = number
        rw [toNat_digitChar small]
        omega
      · rw [Nat.toDigits_of_base_le (by norm_num) large, decimalValue_append,
          ih (number / 10) (by omega)]
        change number / 10 * 10 + _ = number
        rw [toNat_digitChar (Nat.mod_lt _ (by norm_num))]
        omega

/-- A number above zero is not written with a zero in front. -/
theorem head?_toDigits_ne_zero {number : Nat} (positive : 0 < number) :
    (Nat.toDigits 10 number).head? ≠ some '0' := by
  induction number using Nat.strongRecOn with
  | ind number ih =>
      rcases Nat.lt_or_ge number 10 with small | large
      · rw [Nat.toDigits_of_lt_base small]
        interval_cases number <;> decide
      · have front := ih (number / 10) (by omega) (by omega)
        obtain ⟨first, rest, isFront⟩ :=
          List.exists_cons_of_ne_nil (Nat.toDigits_ne_nil (n := number / 10) (b := 10))
        rw [Nat.toDigits_of_base_le (by norm_num) large, isFront]
        rwa [isFront] at front

theorem isDigit_of_mem_toDigits {number : Nat} {char : Char}
    (member : char ∈ Nat.toDigits 10 number) : char.isDigit = true :=
  Nat.isDigit_of_mem_toDigits (by norm_num) (by norm_num) member

/-- An integer is written with the digits of its absolute value. -/
theorem toList_toString (value : Int) :
    (toString value).toList =
      (if value < 0 then ['-'] else []) ++ Nat.toDigits 10 value.natAbs := by
  cases value with
  | ofNat number =>
      change (Nat.repr number).toList = _
      rw [Nat.toList_repr, if_neg (by simp)]
      rfl
  | negSucc number =>
      change ("-" ++ Nat.repr number.succ).toList = _
      rw [String.toList_append, Nat.toList_repr, if_pos (Int.negSucc_lt_zero number)]
      rfl

/-! ## Runs of digits -/

/-- The input behind some digits does not start with another one. -/
def EndsDigits (rest : List Char) : Prop := ∀ char ∈ rest.head?, char.isDigit = false

/-- Some digits, at least one. -/
structure IsDigits (digits : List Char) : Prop where
  isDigit : ∀ char ∈ digits, char.isDigit = true
  notNil : digits ≠ []

section Digits

variable {digits rest : List Char}

theorem IsDigits.isEmpty_eq_false (isDigits : IsDigits digits) : digits.isEmpty = false :=
  List.isEmpty_eq_false_iff.mpr isDigits.notNil

theorem isDigits_toDigits (number : Nat) : IsDigits (Nat.toDigits 10 number) :=
  ⟨fun _ => isDigit_of_mem_toDigits, Nat.toDigits_ne_nil⟩

theorem IsDigits.takeWhile_append (isDigits : IsDigits digits) (ends : EndsDigits rest) :
    (digits ++ rest).takeWhile Char.isDigit = digits :=
  takeWhile_append_rest isDigits.isDigit ends

theorem IsDigits.dropWhile_append (isDigits : IsDigits digits) (ends : EndsDigits rest) :
    (digits ++ rest).dropWhile Char.isDigit = rest :=
  dropWhile_append_rest isDigits.isDigit ends

theorem IsDigits.exists_cons (isDigits : IsDigits digits) :
    ∃ first others, digits = first :: others ∧ first.isDigit = true := by
  obtain ⟨first, others, rfl⟩ := List.exists_cons_of_ne_nil isDigits.notNil
  exact ⟨first, others, rfl, isDigits.isDigit first List.mem_cons_self⟩

theorem isDigits_zero : IsDigits ['0'] := ⟨by simp, by simp⟩

theorem IsDigits.append {others : List Char} (isDigits : IsDigits digits)
    (alsoDigits : ∀ char ∈ others, char.isDigit = true) : IsDigits (digits ++ others) := by
  refine ⟨fun char member => ?_, List.append_ne_nil_of_left_ne_nil isDigits.notNil _⟩
  rcases List.mem_append.mp member with front | back
  · exact isDigits.isDigit char front
  · exact alsoDigits char back

theorem isDigit_of_mem_replicate_zero {count : Nat} {char : Char}
    (member : char ∈ List.replicate count '0') : char.isDigit = true := by
  rw [List.eq_of_mem_replicate member]
  rfl

end Digits

end Tenancy.Text

namespace Tenancy.Decimal

/-! ## Counting digits -/

/-- The digits of a number above zero are counted. -/
theorem digitCount_eq {number : Nat} (positive : 0 < number) :
    digitCount number = (Nat.toDigits 10 number).length := by
  have counts (fuel number : Nat) (enough : number < 2 ^ fuel) (some : 0 < fuel) :
      digitCount.count fuel number = (Nat.toDigits 10 number).length := by
    induction fuel generalizing number with
    | zero => omega
    | succ fuel ih =>
        rw [digitCount.count]
        rcases Nat.lt_or_ge number 10 with small | large
        · rw [if_pos small, Nat.toDigits_of_lt_base small, List.length_singleton]
        · have fuelPositive : 0 < fuel := by
            rcases Nat.eq_zero_or_pos fuel with rfl | fuelPositive
            · omega
            · exact fuelPositive
          rw [if_neg (by omega), Nat.toDigits_of_base_le (by norm_num) large, List.length_append,
            List.length_singleton,
            ih (number / 10) (by rw [pow_succ] at enough; omega) fuelPositive]
  rw [digitCount, if_neg (by omega)]
  exact counts _ _ Nat.lt_log2_self (by omega)

/-- A number has as many digits as its place among the powers of ten says. -/
theorem digitCount_bounds {number : Nat} (positive : 0 < number) :
    10 ^ (digitCount number - 1) ≤ number ∧ number < 10 ^ digitCount number := by
  have someDigits : 0 < (Nat.toDigits 10 number).length := Nat.length_toDigits_pos
  rw [digitCount_eq positive]
  constructor
  · by_contra less
    rcases Nat.eq_or_lt_of_le (Nat.succ_le_of_lt someDigits) with one | more
    · rw [← one] at less
      simp at less
      omega
    · have shorter := (Nat.length_toDigits_le_iff (by norm_num) (by omega)).mpr (not_le.mp less)
      omega
  · exact (Nat.length_toDigits_le_iff (by norm_num) someDigits).mp le_rfl

theorem digitCount_pos {number : Nat} (positive : 0 < number) : 0 < digitCount number := by
  rw [digitCount_eq positive]
  exact Nat.length_toDigits_pos

end Tenancy.Decimal
