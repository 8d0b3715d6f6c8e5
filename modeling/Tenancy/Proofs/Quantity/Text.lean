import Tenancy.Proofs.Decimal.Order
import Tenancy.Proofs.Quantity.Grammar

/-!
# Numbers written as quantities

The text of an integer, with or without a suffix behind it, and the text of a decimal number are
quantities, and what they stand for is the number that is written.  An exponent is written of
numbers that begin far behind the point, and has to fit in 32 bits.
-/

namespace Tenancy

namespace Quantity

open Text (IsDigits)

/-! ## Digits -/

theorem numberOf_toDigits (number : ℕ) : numberOf (Nat.toDigits 10 number) = number := by
  rw [← decimalValue_zero, Text.decimalValue_toDigits]

theorem numberOf_append (first second : List Char) :
    numberOf (first ++ second) = numberOf first * 10 ^ second.length + numberOf second := by
  rw [← decimalValue_zero, Text.decimalValue_append, decimalValue_eq, decimalValue_zero]

theorem numberOf_replicate_zero_append (count : ℕ) (digits : List Char) :
    numberOf (List.replicate count '0' ++ digits) = numberOf digits := by
  rw [numberOf_append, ← decimalValue_zero, Text.decimalValue_replicate_zero, zero_mul, zero_mul,
    zero_add]

/-- A point divides a number by as many tens as there are digits behind it. -/
theorem isNumber_pointed {whole fraction : List Char} (isDigits : IsDigits (whole ++ fraction)) :
    IsNumber (whole ++ '.' :: fraction)
      (numberOf (whole ++ fraction) / 10 ^ fraction.length) := by
  have power : (10 : ℚ) ^ fraction.length ≠ 0 := by positivity
  have isNumber := IsNumber.pointed isDigits
  rw [numberOf_append]
  push_cast
  rwa [add_div, mul_div_cancel_right₀ _ power]

/-! ## Integers -/

/-- The sign in front of an integer. -/
theorem exists_isSign_of_int (value : ℤ) : ∃ factor : ℤ,
    IsSign (if value < 0 then ['-'] else []) factor ∧ (factor : ℚ) * value.natAbs = value := by
  rw [Nat.cast_natAbs, Int.cast_abs]
  split
  next negative => exact ⟨-1, .minus, by rw [abs_of_neg (Int.cast_lt_zero.mpr negative)]; simp⟩
  next notNegative =>
    have nonneg : (0 : ℚ) ≤ value := by exact_mod_cast not_lt.mp notNegative
    exact ⟨1, .absent, by rw [abs_of_nonneg nonneg]; simp⟩

theorem writes_of_denotes {chars : List Char} {value : ℚ} (denotes : Denotes chars value) :
    Writes (String.ofList chars) value :=
  ⟨[], chars, [], by simp [Text.AllBlank], by simp [Text.AllBlank], by simp, denotes⟩

/-- An integer with a suffix behind it stands for as many of the units of the suffix. -/
theorem writes_toString_append (value : ℤ) {suffix : String} {factor : ℚ}
    (isSuffix : IsSuffix suffix.toList factor) :
    Writes (toString value ++ suffix) (value * factor) := by
  obtain ⟨sign, isSign, isValue⟩ := exists_isSign_of_int value
  have denotes := Denotes.scaled isSign (.whole (Text.isDigits_toDigits value.natAbs)) isSuffix
  rw [numberOf_toDigits, isValue, ← Text.toList_toString, ← String.toList_append] at denotes
  simpa using writes_of_denotes denotes

/-- An integer is a quantity. -/
theorem writes_toString (value : ℤ) : Writes (toString value) value := by
  have noSuffix : IsSuffix "".toList 1 := .absent
  have writes := writes_toString_append value noSuffix
  rwa [String.append_empty, mul_one] at writes

/-! ## Decimal numbers -/

/-- The digits of a number that begins far behind the point: one in front of the point, which is
left out if no other follows. -/
theorem isNumber_mantissa {first : Char} {rest : List Char} (isDigits : IsDigits (first :: rest)) :
    IsNumber ([first] ++ if rest.isEmpty then [] else '.' :: rest)
      (numberOf (first :: rest) / 10 ^ rest.length) := by
  cases rest with
  | nil => simpa using IsNumber.whole isDigits
  | cons next others => exact @isNumber_pointed [first] (next :: others) isDigits

/-- Digits that stand behind the point, with zeros between. -/
theorem isNumber_behindZeros {digits : List Char} (isDigits : IsDigits digits) (zeros : ℕ) :
    IsNumber ('0' :: '.' :: (List.replicate zeros '0' ++ digits))
      (numberOf digits / 10 ^ (zeros + digits.length)) := by
  have allDigits : ∀ char ∈ List.replicate zeros '0' ++ digits, char.isDigit = true := by
    intro char member
    rcases List.mem_append.mp member with isZero | isOther
    · exact Text.isDigit_of_mem_replicate_zero isZero
    · exact isDigits.isDigit char isOther
  have sameNumber : numberOf (['0'] ++ (List.replicate zeros '0' ++ digits)) = numberOf digits :=
    (numberOf_replicate_zero_append 1 _).trans (numberOf_replicate_zero_append _ digits)
  have isNumber := isNumber_pointed (Text.isDigits_zero.append allDigits)
  rwa [sameNumber, List.length_append, List.length_replicate] at isNumber

/-- How digits are laid out with a point in front of the last of them: as a number, or as a number
and an exponent below zero. -/
inductive LaidOut (digits : List Char) (scale : ℕ) : List Char → Prop
  | pointed {chars : List Char} : IsNumber chars (numberOf digits / 10 ^ scale) →
      scale ≤ digits.length + Decimal.leadingZeros → LaidOut digits scale chars
  | exponential {mantissa : List Char} {exponent : ℕ} :
      IsNumber mantissa (numberOf digits / 10 ^ scale * 10 ^ exponent) →
      exponent + (digits.length - 1) = scale →
      LaidOut digits scale (mantissa ++ 'E' :: '-' :: Nat.toDigits 10 exponent)

theorem laidOut_magnitudeText {digits : List Char} (isDigits : IsDigits digits) (scale : ℕ) :
    LaidOut digits scale (Decimal.magnitudeText digits scale) := by
  unfold Decimal.magnitudeText
  split
  next long =>
    obtain ⟨first, rest, rfl, -⟩ := isDigits.exists_cons
    rw [List.length_cons] at long ⊢
    obtain ⟨exponent, rfl⟩ := Nat.exists_eq_add_of_le (show rest.length ≤ scale by omega)
    have isNumber := isNumber_mantissa isDigits
    have isValue : (numberOf (first :: rest) / 10 ^ rest.length : ℚ) =
        numberOf (first :: rest) / 10 ^ (rest.length + exponent) * 10 ^ exponent := by
      rw [pow_add]
      field_simp
    have isText : (toString exponent).toList = Nat.toDigits 10 exponent := Nat.toList_repr
    rw [isValue] at isNumber
    dsimp only
    rw [Nat.add_sub_cancel, Nat.add_sub_cancel_left, isText]
    exact .exponential isNumber (add_comm _ _)
  next short =>
    rw [not_lt] at short
    split
    next integral =>
      subst integral
      exact .pointed (by simpa using IsNumber.whole isDigits) short
    next =>
      split
      next inside =>
        have whole := List.take_append_drop (digits.length - scale) digits
        have isNumber := isNumber_pointed (whole.symm ▸ isDigits)
        rw [whole, List.length_drop, Nat.sub_sub_self inside.le] at isNumber
        exact .pointed isNumber short
      next outside =>
        have isNumber := isNumber_behindZeros isDigits (scale - digits.length)
        rw [Nat.sub_add_cancel (not_lt.mp outside)] at isNumber
        exact .pointed isNumber short

/-- A magnitude stands for its digits with a point in front of the last of them, if its exponent
fits. -/
theorem denotes_magnitudeText {sign digits : List Char} {factor : ℤ} (isSign : IsSign sign factor)
    (isDigits : IsDigits digits) {scale : ℕ} (fits : scale ≤ 2 ^ 31 + (digits.length - 1)) :
    Denotes (sign ++ Decimal.magnitudeText digits scale)
      (factor * (numberOf digits / 10 ^ scale)) := by
  have laidOut := laidOut_magnitudeText isDigits scale
  generalize Decimal.magnitudeText digits scale = chars at laidOut
  cases laidOut with
  | pointed isNumber =>
      have denotes := Denotes.scaled isSign isNumber .absent
      rwa [List.append_nil, mul_one] at denotes
  | @exponential mantissa exponent isNumber isExponent =>
      have isLetter : 'E' = 'e' ∨ 'E' = 'E' := .inr rfl
      have isSuffix := IsSuffix.exponent isLetter .minus
        (Text.isDigits_toDigits exponent) (by rw [numberOf_toDigits]; omega)
        (by rw [numberOf_toDigits]; omega)
      have denotes := Denotes.scaled isSign isNumber isSuffix
      have cancel : (10 : ℚ) ^ exponent * 10 ^ (-1 * (exponent : ℤ)) = 1 := by
        rw [← zpow_natCast, ← zpow_add₀ (by norm_num)]
        simp
      rwa [numberOf_toDigits, ← mul_assoc, mul_assoc, cancel, mul_one, List.append_assoc,
        List.singleton_append] at denotes

/-- An exponent that does not fit is no suffix. -/
theorem not_isSuffix_of_lt {exponent : ℕ} (large : 2 ^ 31 < exponent) (factor : ℚ) :
    ¬IsSuffix ('E' :: '-' :: Nat.toDigits 10 exponent) factor := by
  intro isSuffix
  generalize isChars : 'E' :: '-' :: Nat.toDigits 10 exponent = chars at isSuffix
  cases isSuffix with
  | absent => cases isChars
  | binary => cases isChars
  | decimal => cases isChars
  | exponent isLetter isSign isDigits low =>
      obtain ⟨-, isRest⟩ := List.cons.inj isChars
      cases isSign with
      | absent =>
          rw [List.nil_append] at isRest
          have notDigit := isDigits.isDigit '-' (isRest ▸ List.mem_cons_self)
          cases notDigit
      | plus => cases isRest
      | minus =>
          obtain ⟨-, rfl⟩ := List.cons.inj isRest
          rw [numberOf_toDigits] at low
          omega

/-- A magnitude with an exponent that does not fit is no quantity. -/
theorem not_denotes_magnitudeText {sign digits : List Char} {factor : ℤ}
    (isSign : IsSign sign factor) (isDigits : IsDigits digits) {scale : ℕ}
    (outside : 2 ^ 31 + (digits.length - 1) < scale) (value : ℚ) :
    ¬Denotes (sign ++ Decimal.magnitudeText digits scale) value := by
  intro denotes
  have laidOut := laidOut_magnitudeText isDigits scale
  generalize Decimal.magnitudeText digits scale = chars at laidOut denotes
  cases laidOut with
  | pointed _ short =>
      rw [Decimal.leadingZeros] at short
      omega
  | @exponential mantissa exponent isNumber isExponent =>
      have rest := splitSign_append isSign
        (isNumber.startsUnsigned_append ('E' :: '-' :: Nat.toDigits 10 exponent))
      obtain ⟨_, isRead, -⟩ := exists_value?_iff.mpr denotes
      obtain ⟨-, unit, -, isUnit, -⟩ := value?_eq_some_iff.mp isRead
      rw [rest.1, dropWhile_append_rest isNumber.isNumberChar (by simp [isNumberChar])] at isUnit
      exact not_isSuffix_of_lt (by omega) _ (isSuffix_of_unit? isUnit)

/-- The place of the first digit of a number is one that an exponent of 32 bits can name. -/
def InReach (value : ℚ) : Prop := value ≠ 0 → (10 : ℚ) ^ (-2 ^ 31 : ℤ) ≤ |value|

theorem inReach_iff {number : Decimal} (notZero : number.coefficient ≠ 0)
    (nonneg : 0 ≤ number.scale) : InReach number.toRat ↔
      number.scale.toNat ≤ 2 ^ 31 + ((Nat.toDigits 10 number.coefficient.natAbs).length - 1) := by
  have someDigits := Nat.length_toDigits_pos (b := 10) (n := number.coefficient.natAbs)
  have bounds := Decimal.abs_toRat_bounds notZero
  rw [Decimal.magnitude, Decimal.digitCount_eq (Int.natAbs_pos.mpr notZero)] at bounds
  have valueSome : number.toRat ≠ 0 := mt (Decimal.toRat_eq_zero_iff number).mp notZero
  constructor
  · intro inReach
    have less := (inReach valueSome).trans_lt bounds.2
    rw [zpow_lt_zpow_iff_right₀ (by norm_num)] at less
    omega
  · intro fits _
    refine le_trans (zpow_le_zpow_right₀ (by norm_num) ?_) bounds.1
    omega

theorem toText_eq (number : Decimal) : number.toText =
    String.ofList ((if number.coefficient < 0 then ['-'] else []) ++
      Decimal.magnitudeText (Nat.toDigits 10 number.coefficient.natAbs) number.scale.toNat) := by
  have isText : (toString number.coefficient.natAbs).toList =
      Nat.toDigits 10 number.coefficient.natAbs := Nat.toList_repr
  rw [Decimal.toText, isText]
  split <;> rfl

theorem toRat_eq_natAbs_div {number : Decimal} (nonneg : 0 ≤ number.scale) {factor : ℤ}
    (isValue : (factor : ℚ) * number.coefficient.natAbs = number.coefficient) :
    number.toRat = factor * (number.coefficient.natAbs / 10 ^ number.scale.toNat) := by
  have isScale : (10 : ℚ) ^ number.scale = 10 ^ number.scale.toNat := by
    rw [← zpow_natCast, Int.toNat_of_nonneg nonneg]
  rw [Decimal.toRat, ← isValue, zpow_neg, isScale]
  ring

/-- The characters that the text of a number is written with. -/
theorem mem_toText {number : Decimal} {char : Char} (member : char ∈ number.toText.toList) :
    isNumberChar char = true ∨ char = '-' ∨ char = 'E' := by
  have ofDigits {exponent : ℕ} (isDigit : char ∈ Nat.toDigits 10 exponent) :
      isNumberChar char = true :=
    isNumberChar_of_isDigit (Text.isDigit_of_mem_toDigits isDigit)
  have laidOut := laidOut_magnitudeText (Text.isDigits_toDigits number.coefficient.natAbs)
    number.scale.toNat
  rw [toText_eq, String.toList_ofList] at member
  generalize Decimal.magnitudeText _ _ = chars at laidOut member
  rcases List.mem_append.mp member with isSign | inMagnitude
  · split at isSign
    next => exact .inr (.inl (List.mem_singleton.mp isSign))
    next => cases isSign
  · cases laidOut with
    | pointed isNumber => exact .inl (isNumber.isNumberChar char inMagnitude)
    | exponential isNumber =>
        rw [List.mem_append, List.mem_cons, List.mem_cons] at inMagnitude
        rcases inMagnitude with inMantissa | isLetter | isMinus | inExponent
        · exact .inl (isNumber.isNumberChar char inMantissa)
        · exact .inr (.inr isLetter)
        · exact .inr (.inl isMinus)
        · exact .inl (ofDigits inExponent)

/-- No letter of a binary suffix stands in the text of a number. -/
theorem notMem_toText (number : Decimal) : 'i' ∉ number.toText.toList := by
  intro member
  rcases mem_toText member with isNumberChar | isMinus | isLetter
  · cases isNumberChar
  · cases isMinus
  · cases isLetter

/-- A text without blanks is a quantity as it is. -/
theorem denotes_of_writes {text : String} {value : ℚ} (writes : Writes text value)
    (bare : ∀ char ∈ text.toList, Text.isBlank char = false) : Denotes text.toList value := by
  obtain ⟨before, core, after, blankBefore, blankAfter, split, denotes⟩ := writes
  have noneBefore : before = [] := List.eq_nil_iff_forall_not_mem.mpr fun char member =>
    absurd (blankBefore char member) (by simp [bare char (by simp [split, member])])
  have noneAfter : after = [] := List.eq_nil_iff_forall_not_mem.mpr fun char member =>
    absurd (blankAfter char member) (by simp [bare char (by simp [split, member])])
  rwa [split, noneBefore, noneAfter, List.nil_append, List.append_nil]

/-- The text of a number that is not zero is a quantity exactly if the number is in reach of an
exponent, and then it stands for the number. -/
theorem writes_toText {number : Decimal} (notZero : number.coefficient ≠ 0)
    (nonneg : 0 ≤ number.scale) (inReach : InReach number.toRat) :
    Writes number.toText number.toRat := by
  obtain ⟨factor, isSign, isValue⟩ := exists_isSign_of_int number.coefficient
  rw [inReach_iff notZero nonneg] at inReach
  have denotes := denotes_magnitudeText isSign (Text.isDigits_toDigits _) inReach
  rw [numberOf_toDigits, ← toRat_eq_natAbs_div nonneg isValue] at denotes
  rw [toText_eq]
  exact writes_of_denotes denotes

theorem inReach_of_writes_toText {number : Decimal} (notZero : number.coefficient ≠ 0)
    (nonneg : 0 ≤ number.scale) {value : ℚ} (writes : Writes number.toText value) :
    InReach number.toRat := by
  have bare : ∀ char ∈ number.toText.toList, Text.isBlank char = false := by
    intro char member
    rcases mem_toText member with isNumberChar | rfl | rfl
    · exact isBlank_eq_false_of_isNumberChar isNumberChar
    · rfl
    · rfl
  obtain ⟨factor, isSign, -⟩ := exists_isSign_of_int number.coefficient
  have denotes := denotes_of_writes writes bare
  rw [toText_eq, String.toList_ofList] at denotes
  rw [inReach_iff notZero nonneg]
  by_contra outside
  exact not_denotes_magnitudeText isSign (Text.isDigits_toDigits _) (not_le.mp outside) value
    denotes

end Quantity

end Tenancy
