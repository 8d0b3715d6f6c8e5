import Mathlib.Data.Nat.Digits.Defs
import Tenancy.Proofs.Decimal.Basic
import Tenancy.Proofs.Text.Digits
import Tenancy.Proofs.Text.Splitting
import Tenancy.Quantity.Basic

/-!
# The grammar of quantities

A quantity is written as a sign, digits with a point among them and a suffix.  Reading accepts
exactly the texts that are written so, with blanks around them, and gives exactly the number
that is written.  Each binary suffix stands for 1024 times the one before it, each decimal one
for a power of 1000, and an exponent may be any integer that fits in 32 bits.
-/

namespace Tenancy

namespace Quantity

open Text (IsDigits)

/-! ## The grammar -/

/-- A sign, which may be left out, with the factor that it stands for. -/
inductive IsSign : List Char → ℤ → Prop
  | absent : IsSign [] 1
  | plus : IsSign ['+'] 1
  | minus : IsSign ['-'] (-1)

/-- The number that digits are the decimal notation of. -/
def numberOf (digits : List Char) : ℕ :=
  Nat.ofDigits 10 (digits.reverse.map fun digit => digit.toNat - '0'.toNat)

/-- Digits with at most one point among them, and the number that is written with them. -/
inductive IsNumber : List Char → ℚ → Prop
  | whole {digits : List Char} : IsDigits digits → IsNumber digits (numberOf digits)
  | pointed {whole fraction : List Char} : IsDigits (whole ++ fraction) →
      IsNumber (whole ++ '.' :: fraction)
        (numberOf whole + numberOf fraction / 10 ^ fraction.length)

/-- The letters of the binary suffixes, ascending. -/
def binaryLetters : List Char := ['K', 'M', 'G', 'T', 'P', 'E']

/-- The decimal suffixes, with the power of ten that each stands for. -/
def decimalLetters : List (Char × ℤ) :=
  [('n', -9), ('u', -6), ('m', -3), ('k', 3), ('M', 6), ('G', 9), ('T', 12), ('P', 15), ('E', 18)]

/-- A suffix with the factor that it stands for. -/
inductive IsSuffix : List Char → ℚ → Prop
  | absent : IsSuffix [] 1
  | binary {index : ℕ} {letter : Char} : binaryLetters[index]? = some letter →
      IsSuffix [letter, 'i'] (2 ^ (10 * (index + 1)))
  | decimal {letter : Char} {power : ℤ} : (letter, power) ∈ decimalLetters →
      IsSuffix [letter] (10 ^ power)
  | exponent {letter : Char} {sign digits : List Char} {factor : ℤ} :
      letter = 'e' ∨ letter = 'E' → IsSign sign factor → IsDigits digits →
      -2 ^ 31 ≤ factor * numberOf digits → factor * numberOf digits < 2 ^ 31 →
      IsSuffix (letter :: (sign ++ digits)) (10 ^ (factor * numberOf digits))

/-- Some characters are a sign, a number and a suffix, and together they stand for a value. -/
inductive Denotes : List Char → ℚ → Prop
  | scaled {sign digits suffix : List Char} {factor : ℤ} {number scale : ℚ} :
      IsSign sign factor → IsNumber digits number → IsSuffix suffix scale →
      Denotes (sign ++ digits ++ suffix) (factor * number * scale)

/-- A text denotes a value once the blanks around it are taken away. -/
def Writes (text : String) (value : ℚ) : Prop :=
  ∃ before core after, Text.AllBlank before ∧ Text.AllBlank after ∧
    text.toList = before ++ core ++ after ∧ Denotes core value

/-! ## Signs and numbers -/

theorem decimalValue_eq (digits : List Char) (before : ℕ) :
    Text.decimalValue digits before = before * 10 ^ digits.length + numberOf digits := by
  induction digits using List.reverseRec with
  | nil => simp [Text.decimalValue, numberOf]
  | append_singleton digits digit ih =>
      rw [Text.decimalValue_append, ih, numberOf, numberOf, List.reverse_append,
        List.reverse_singleton, List.singleton_append, List.map_cons, Nat.ofDigits_cons,
        List.length_append, List.length_singleton]
      simp only [Text.decimalValue, List.foldl_cons, List.foldl_nil, pow_succ]
      ring

theorem decimalValue_zero (digits : List Char) : Text.decimalValue digits 0 = numberOf digits := by
  rw [decimalValue_eq, zero_mul, zero_add]

/-- The factor of a sign that is split off. -/
def signFactor (negative : Bool) : ℤ := if negative then -1 else 1

theorem exists_isSign (chars : List Char) :
    ∃ sign, IsSign sign (signFactor (splitSign chars).1) ∧ chars = sign ++ (splitSign chars).2 := by
  unfold splitSign
  split
  next => exact ⟨['+'], .plus, rfl⟩
  next => exact ⟨['-'], .minus, rfl⟩
  next => exact ⟨[], .absent, rfl⟩

/-- The first character is no sign. -/
def StartsUnsigned (chars : List Char) : Prop := ∀ char ∈ chars.head?, char ≠ '+' ∧ char ≠ '-'

/-- A sign is split off from what starts with no other one. -/
theorem splitSign_append {sign rest : List Char} {factor : ℤ} (isSign : IsSign sign factor)
    (unsigned : StartsUnsigned rest) :
    (splitSign (sign ++ rest)).2 = rest ∧ signFactor (splitSign (sign ++ rest)).1 = factor := by
  cases isSign with
  | plus => exact ⟨rfl, rfl⟩
  | minus => exact ⟨rfl, rfl⟩
  | absent =>
      rw [List.nil_append]
      unfold splitSign
      split
      next => exact absurd rfl (unsigned '+' rfl).1
      next => exact absurd rfl (unsigned '-' rfl).2
      next => exact ⟨rfl, rfl⟩

theorem startsUnsigned_cons {char : Char} (isNumberChar : isNumberChar char = true)
    (rest : List Char) : StartsUnsigned (char :: rest) := by
  rintro _ ⟨⟩
  constructor <;> rintro rfl <;> cases isNumberChar

theorem isNumberChar_of_isDigit {char : Char} (isDigit : char.isDigit = true) :
    isNumberChar char = true := by
  rw [isNumberChar, isDigit, Bool.true_or]

theorem isBlank_eq_false_of_isNumberChar {char : Char} (isNumberChar : isNumberChar char = true) :
    Text.isBlank char = false := by
  rcases Bool.or_eq_true_iff.mp isNumberChar with isDigit | isPoint
  · exact Text.isBlank_eq_false_of_isDigit isDigit
  · rw [beq_iff_eq.mp isPoint]
    rfl

namespace IsNumber

variable {digits : List Char} {number : ℚ}

theorem notNil (isNumber : IsNumber digits number) : digits ≠ [] := by
  cases isNumber with
  | whole isDigits => exact isDigits.notNil
  | pointed => simp

theorem isNumberChar (isNumber : IsNumber digits number) :
    ∀ char ∈ digits, Quantity.isNumberChar char = true := by
  intro char member
  cases isNumber with
  | whole isDigits => exact isNumberChar_of_isDigit (isDigits.isDigit char member)
  | pointed isDigits =>
      rcases List.mem_append.mp member with inWhole | inRest
      · exact isNumberChar_of_isDigit (isDigits.isDigit char (List.mem_append_left _ inWhole))
      · rcases List.mem_cons.mp inRest with rfl | inFraction
        · rfl
        · exact isNumberChar_of_isDigit
            (isDigits.isDigit char (List.mem_append_right _ inFraction))

theorem startsUnsigned_append (isNumber : IsNumber digits number) (rest : List Char) :
    StartsUnsigned (digits ++ rest) := by
  obtain ⟨char, others, rfl⟩ := List.exists_cons_of_ne_nil isNumber.notNil
  exact startsUnsigned_cons (isNumber.isNumberChar char List.mem_cons_self) _

end IsNumber

theorem ofUnsigned_of_noPoint {digits : List Char} (noPoint : '.' ∉ digits) :
    Decimal.ofUnsigned digits = ⟨numberOf digits, 0⟩ := by
  have inside := decide_ne_mark noPoint
  rw [Decimal.ofUnsigned, List.takeWhile_eq_self_iff.mpr inside,
    List.dropWhile_eq_nil_iff.mpr inside, decimalValue_zero]
  rfl

/-- The digits behind a point make the scale of a number. -/
theorem ofUnsigned_pointed {whole : List Char} (noPoint : '.' ∉ whole) (fraction : List Char) :
    Decimal.ofUnsigned (whole ++ '.' :: fraction) =
      ⟨(numberOf whole * 10 ^ fraction.length + numberOf fraction : ℕ), fraction.length⟩ := by
  rw [Decimal.ofUnsigned, takeWhile_append_mark noPoint, dropWhile_append_mark noPoint,
    List.drop_one, List.tail_cons, decimalValue_zero, decimalValue_eq]

theorem toRat_whole (number : ℕ) : Decimal.toRat ⟨number, 0⟩ = number := by
  simp [Decimal.toRat]

theorem toRat_pointed (whole fraction places : ℕ) :
    Decimal.toRat ⟨(whole * 10 ^ places + fraction : ℕ), places⟩ =
      whole + fraction / 10 ^ places := by
  have power : (10 : ℚ) ^ places ≠ 0 := by positivity
  rw [Decimal.toRat, zpow_neg, zpow_natCast]
  push_cast
  field_simp

theorem unsigned?_eq_some_iff {digits : List Char} {number : Decimal} :
    unsigned? digits = some number ↔
      (∃ digit ∈ digits, digit.isDigit = true) ∧ digits.count '.' ≤ 1 ∧
        Decimal.ofUnsigned digits = number := by
  simp only [unsigned?, Option.ite_none_right_eq_some, Bool.and_eq_true, List.any_eq_true,
    decide_eq_true_eq, Option.some.injEq, and_assoc]

theorem noPoint_of_isDigits {digits : List Char} (isDigits : ∀ digit ∈ digits, digit.isDigit) :
    '.' ∉ digits :=
  fun hasPoint => absurd (isDigits '.' hasPoint) (by decide)

/-- What is read of digits and points is a number. -/
theorem isNumber_of_unsigned? {digits : List Char} {number : Decimal}
    (numberChars : ∀ char ∈ digits, isNumberChar char = true)
    (isRead : unsigned? digits = some number) : IsNumber digits number.toRat := by
  have isDigit_of_ne {char : Char} (member : char ∈ digits) (noPoint : char ≠ '.') :
      char.isDigit = true := by
    simpa [isNumberChar, noPoint] using numberChars char member
  obtain ⟨⟨digit, member, isDigit⟩, onePoint, rfl⟩ := unsigned?_eq_some_iff.mp isRead
  by_cases hasPoint : '.' ∈ digits
  · obtain ⟨whole, fraction, rfl, noPoint⟩ := List.eq_append_cons_of_mem hasPoint
    -- the point is the only one, so all other characters are digits
    have noOther : '.' ∉ whole ++ fraction := by
      rw [List.count_append, List.count_cons_self] at onePoint
      simp only [List.mem_append, noPoint, false_or]
      exact List.count_eq_zero.mp (by omega)
    have kept {char : Char} (isChar : char ∈ whole ++ fraction) :
        char ∈ whole ++ '.' :: fraction :=
      (List.sublist_cons_self '.' fraction).append_left whole |>.mem isChar
    rw [ofUnsigned_pointed noPoint, toRat_pointed]
    refine .pointed ⟨fun char isChar => isDigit_of_ne (kept isChar) ?_, ?_⟩
    · exact fun isPoint => noOther (isPoint ▸ isChar)
    · refine List.ne_nil_of_mem (a := digit) ?_
      have noPoint : digit ≠ '.' := by
        rintro rfl
        cases isDigit
      simpa [noPoint] using member
  · rw [ofUnsigned_of_noPoint hasPoint, toRat_whole]
    refine .whole ⟨fun char isChar => isDigit_of_ne isChar ?_, List.ne_nil_of_mem member⟩
    exact fun isPoint => hasPoint (isPoint ▸ isChar)

/-- A number is read exactly. -/
theorem IsNumber.exists_unsigned? {digits : List Char} {value : ℚ}
    (isNumber : IsNumber digits value) :
    ∃ number, unsigned? digits = some number ∧ number.toRat = value := by
  cases isNumber with
  | whole isDigits =>
      have noPoint := noPoint_of_isDigits isDigits.isDigit
      obtain ⟨first, others, rfl, isDigit⟩ := isDigits.exists_cons
      refine ⟨_, unsigned?_eq_some_iff.mpr ⟨⟨first, List.mem_cons_self, isDigit⟩, ?_, rfl⟩, ?_⟩
      · rw [List.count_eq_zero.mpr noPoint]
        exact Nat.zero_le 1
      · rw [ofUnsigned_of_noPoint noPoint, toRat_whole]
  | @pointed whole fraction isDigits =>
      have noPoint := noPoint_of_isDigits isDigits.isDigit
      rw [List.mem_append, not_or] at noPoint
      obtain ⟨digit, member⟩ := List.exists_mem_of_ne_nil _ isDigits.notNil
      have inside : digit ∈ whole ++ '.' :: fraction :=
        (List.sublist_cons_self '.' fraction).append_left whole |>.mem member
      refine ⟨_, unsigned?_eq_some_iff.mpr
        ⟨⟨digit, inside, isDigits.isDigit digit member⟩, ?_, rfl⟩, ?_⟩
      · rw [List.count_append, List.count_cons_self, List.count_eq_zero.mpr noPoint.1,
          List.count_eq_zero.mpr noPoint.2]
      · rw [ofUnsigned_pointed noPoint.1, toRat_pointed]

/-! ## Suffixes -/

theorem fitsSigned_iff {value : ℤ} :
    Width.fitsSigned 32 value = true ↔ -2 ^ 31 ≤ value ∧ value < 2 ^ 31 := by
  have size : (Width.size 31 : ℤ) = 2 ^ 31 := by norm_num [Width.size]
  simp only [Width.fitsSigned, Nat.reduceSub, size, Bool.and_eq_true, decide_eq_true_eq]

/-- An exponent is read exactly if it is an integer of 32 bits. -/
theorem exponent?_eq_some_iff {chars : List Char} {exponent : ℤ} :
    exponent? chars = some exponent ↔ ∃ sign factor digits, IsSign sign factor ∧ IsDigits digits ∧
      chars = sign ++ digits ∧ exponent = factor * numberOf digits ∧
      -2 ^ 31 ≤ exponent ∧ exponent < 2 ^ 31 := by
  have signed (negative : Bool) (digits : List Char) :
      (if negative then -(Text.decimalValue digits 0 : ℤ) else Text.decimalValue digits 0) =
        signFactor negative * numberOf digits := by
    cases negative <;> simp [signFactor, decimalValue_zero]
  simp only [exponent?, signed, Option.ite_none_right_eq_some, Bool.and_eq_true,
    Bool.not_eq_true', List.isEmpty_eq_false_iff, List.all_eq_true, fitsSigned_iff,
    Option.some.injEq]
  constructor
  · rintro ⟨⟨notNil, isDigit⟩, ⟨low, high⟩, rfl⟩
    obtain ⟨sign, isSign, split⟩ := exists_isSign chars
    exact ⟨sign, _, _, isSign, ⟨isDigit, notNil⟩, split, rfl, low, high⟩
  · rintro ⟨sign, factor, digits, isSign, isDigits, rfl, rfl, low, high⟩
    have unsigned := (IsNumber.whole isDigits).startsUnsigned_append []
    rw [List.append_nil] at unsigned
    obtain ⟨restEq, factorEq⟩ := splitSign_append isSign unsigned
    rw [restEq, factorEq]
    exact ⟨⟨isDigits.notNil, isDigits.isDigit⟩, ⟨low, high⟩, rfl⟩

/-- The factor of a unit. -/
def Unit.factor : Unit → ℚ
  | .binary power => 2 ^ power
  | .decimal power => 10 ^ power

theorem toRat_apply (number : Decimal) (unit : Unit) :
    (unit.apply number).toRat = number.toRat * unit.factor := by
  cases unit with
  | binary power =>
      rw [Unit.apply, Decimal.toRat_mul, Decimal.toRat_ofInt, Unit.factor]
      simp
  | decimal power =>
      have ten : (10 : ℚ) ≠ 0 := by norm_num
      simp only [Unit.apply, Decimal.shift, Decimal.toRat, Unit.factor, mul_assoc,
        ← zpow_add₀ ten]
      congr 2
      omega

theorem exists_of_mem_binarySuffixes : ∀ entry ∈ binarySuffixes,
    ∃ place ∈ binaryLetters.zipIdx,
      entry.1.toList = [place.1, 'i'] ∧ entry.2 = 10 * (place.2 + 1) := by
  decide

theorem exists_of_mem_decimalSuffixes : ∀ entry ∈ decimalSuffixes,
    entry = ("", 0) ∨ ∃ place ∈ decimalLetters, entry.1.toList = [place.1] ∧ entry.2 = place.2 := by
  decide

/-- What is read as a unit is a suffix. -/
theorem isSuffix_of_unit? {suffix : List Char} {unit : Unit} (isRead : unit? suffix = some unit) :
    IsSuffix suffix unit.factor := by
  have exponential {letter : Char} {rest : List Char} (isLetter : letter = 'e' ∨ letter = 'E')
      (isRead : (exponent? rest).map Unit.decimal = some unit) :
      IsSuffix (letter :: rest) unit.factor := by
    obtain ⟨exponent, isExponent, rfl⟩ := Option.map_eq_some_iff.mp isRead
    obtain ⟨sign, factor, digits, isSign, isDigits, rfl, rfl, low, high⟩ :=
      exponent?_eq_some_iff.mp isExponent
    exact .exponent isLetter isSign isDigits low high
  unfold unit? at isRead
  split at isRead
  next _ power found =>
    cases isRead
    have same := List.find?_some found
    obtain ⟨⟨letter, index⟩, member, isText, rfl⟩ :=
      exists_of_mem_binarySuffixes _ (List.mem_of_find?_eq_some found)
    rw [← beq_iff_eq.mp same, isText]
    exact .binary (List.mem_zipIdx_iff_getElem?.mp member)
  next =>
    split at isRead
    next _ power found =>
      cases isRead
      have same := List.find?_some found
      rw [← beq_iff_eq.mp same]
      rcases exists_of_mem_decimalSuffixes _ (List.mem_of_find?_eq_some found) with
        same | ⟨⟨letter, power⟩, member, isText, rfl⟩
      · cases same
        exact .absent
      · rw [isText]
        exact .decimal member
    next =>
      split at isRead
      next rest => exact exponential (.inl rfl) isRead
      next rest => exact exponential (.inr rfl) isRead
      next => cases isRead

/-- An exponent is looked at behind its letter, since no suffix that is listed goes on like
one. -/
theorem unit?_cons {letter : Char} (isLetter : letter = 'e' ∨ letter = 'E') {rest : List Char}
    {exponent : ℤ} (isExponent : exponent? rest = some exponent) :
    unit? (letter :: rest) = some (.decimal exponent) := by
  have notBinary : binarySuffixes.find? (·.1.toList == letter :: rest) = none := by
    refine List.find?_eq_none.mpr fun entry member same => ?_
    obtain ⟨place, -, isText, -⟩ := exists_of_mem_binarySuffixes entry member
    rw [isText] at same
    cases beq_iff_eq.mp same
    cases isExponent
  have notDecimal : decimalSuffixes.find? (·.1.toList == letter :: rest) = none := by
    refine List.find?_eq_none.mpr fun entry member same => ?_
    rcases exists_of_mem_decimalSuffixes entry member with rfl | ⟨place, -, isText, -⟩
    · cases same
    · rw [isText] at same
      cases beq_iff_eq.mp same
      cases isExponent
  rcases isLetter with rfl | rfl <;>
    simp only [unit?, notBinary, notDecimal, isExponent, Option.map_some]

/-- A suffix is read as its unit. -/
theorem IsSuffix.exists_unit? {suffix : List Char} {factor : ℚ}
    (isSuffix : IsSuffix suffix factor) :
    ∃ unit, unit? suffix = some unit ∧ unit.factor = factor := by
  have binary : ∀ place ∈ binaryLetters.zipIdx,
      unit? [place.1, 'i'] = some (.binary (10 * (place.2 + 1))) := by decide
  have decimal : ∀ place ∈ decimalLetters, unit? [place.1] = some (.decimal place.2) := by decide
  cases isSuffix with
  | absent => exact ⟨.decimal 0, rfl, zpow_zero 10⟩
  | @binary index letter isLetter =>
      exact ⟨_, binary (letter, index) (List.mem_zipIdx_iff_getElem?.mpr isLetter), rfl⟩
  | decimal member => exact ⟨_, decimal _ member, rfl⟩
  | exponent isLetter isSign isDigits low high =>
      have isExponent := exponent?_eq_some_iff.mpr
        ⟨_, _, _, isSign, isDigits, rfl, rfl, low, high⟩
      exact ⟨_, unit?_cons isLetter isExponent, rfl⟩

/-- A suffix starts with no digit and no point. -/
theorem IsSuffix.endsNumber {suffix : List Char} {factor : ℚ} (isSuffix : IsSuffix suffix factor) :
    ∀ char ∈ suffix.head?, isNumberChar char = false := by
  have binary : ∀ letter ∈ binaryLetters, isNumberChar letter = false := by
    simp [binaryLetters, isNumberChar]
  have decimal : ∀ place ∈ decimalLetters, isNumberChar place.1 = false := by decide
  intro char isFirst
  cases isSuffix with
  | absent => cases isFirst
  | binary isLetter =>
      cases isFirst
      exact binary _ (List.mem_of_getElem? isLetter)
  | decimal member =>
      cases isFirst
      exact decimal _ member
  | exponent isLetter =>
      cases isFirst
      rcases isLetter with rfl | rfl <;> decide

/-- What denotes a value has no blank in it. -/
theorem Denotes.isBlank_eq_false {chars : List Char} {value : ℚ} (denotes : Denotes chars value) :
    ∀ char ∈ chars, Text.isBlank char = false := by
  have signs {sign : List Char} {factor : ℤ} (isSign : IsSign sign factor) :
      ∀ char ∈ sign, Text.isBlank char = false := by
    cases isSign <;> simp [Text.isBlank]
  have binary : ∀ letter ∈ binaryLetters, Text.isBlank letter = false := by
    simp [binaryLetters, Text.isBlank]
  have decimal : ∀ place ∈ decimalLetters, Text.isBlank place.1 = false := by decide
  obtain ⟨isSign, isNumber, isSuffix⟩ := denotes
  simp only [List.mem_append, or_imp, forall_and]
  refine ⟨⟨signs isSign, fun char member =>
    isBlank_eq_false_of_isNumberChar (isNumber.isNumberChar char member)⟩, ?_⟩
  cases isSuffix with
  | absent => simp
  | binary isLetter => simpa using ⟨binary _ (List.mem_of_getElem? isLetter), rfl⟩
  | decimal member => simpa using decimal _ member
  | exponent isLetter isExponentSign isDigits =>
      simp only [List.mem_cons, List.mem_append, or_imp, forall_and, forall_eq]
      refine ⟨?_, signs isExponentSign, fun char member => ?_⟩
      · rcases isLetter with rfl | rfl <;> rfl
      · exact Text.isBlank_eq_false_of_isDigit (isDigits.isDigit char member)

/-! ## Reading -/

theorem value?_eq_some_iff {chars : List Char} {number : Decimal} :
    value? chars = some number ↔ ∃ digits unit,
      unsigned? ((splitSign chars).2.takeWhile isNumberChar) = some digits ∧
        unit? ((splitSign chars).2.dropWhile isNumberChar) = some unit ∧
        unit.apply (if (splitSign chars).1 then digits.negate else digits) = number := by
  simp only [value?, Option.bind_eq_bind, Option.bind_eq_some_iff, Option.pure_def,
    Option.some.injEq]
  constructor
  · rintro ⟨digits, isNumber, unit, isUnit, same⟩
    exact ⟨digits, unit, isNumber, isUnit, same⟩
  · rintro ⟨digits, unit, isNumber, isUnit, same⟩
    exact ⟨digits, isNumber, unit, isUnit, same⟩

theorem toRat_signed (negative : Bool) (number : Decimal) :
    (if negative then number.negate else number).toRat = signFactor negative * number.toRat := by
  cases negative <;> simp [signFactor, Decimal.negate, Decimal.toRat]

theorem exists_value?_iff {chars : List Char} {value : ℚ} :
    (∃ number, value? chars = some number ∧ number.toRat = value) ↔ Denotes chars value := by
  constructor
  · rintro ⟨number, isRead, rfl⟩
    obtain ⟨digits, unit, isNumber, isUnit, rfl⟩ := value?_eq_some_iff.mp isRead
    obtain ⟨sign, isSign, split⟩ := exists_isSign chars
    have numberChars : ∀ char ∈ (splitSign chars).2.takeWhile isNumberChar,
        isNumberChar char = true := fun char member => List.mem_takeWhile_imp member
    have denotes := Denotes.scaled isSign (isNumber_of_unsigned? numberChars isNumber)
      (isSuffix_of_unit? isUnit)
    rw [List.append_assoc, List.takeWhile_append_dropWhile, ← split] at denotes
    rw [toRat_apply, toRat_signed]
    exact denotes
  · rintro ⟨isSign, isNumber, isSuffix⟩
    obtain ⟨digits, isRead, rfl⟩ := isNumber.exists_unsigned?
    obtain ⟨unit, isUnit, rfl⟩ := isSuffix.exists_unit?
    obtain ⟨restEq, factorEq⟩ := splitSign_append isSign (isNumber.startsUnsigned_append _)
    rw [List.append_assoc, ← factorEq]
    refine ⟨_, value?_eq_some_iff.mpr ⟨digits, unit, ?_, ?_, rfl⟩, ?_⟩
    · rw [restEq, takeWhile_append_rest isNumber.isNumberChar isSuffix.endsNumber, isRead]
    · rw [restEq, dropWhile_append_rest isNumber.isNumberChar isSuffix.endsNumber, isUnit]
    · rw [toRat_apply, toRat_signed]

/-- A text is read exactly if it writes a value. -/
theorem exists_parse_iff {text : String} {value : ℚ} :
    (∃ number, parse text = .ok number ∧ number.toRat = value) ↔ Writes text value := by
  have parse_iff {number : Decimal} :
      parse text = .ok number ↔ value? (Text.trim text.toList) = some number := by
    unfold parse
    cases value? (Text.trim text.toList) <;> simp
  simp only [parse_iff, exists_value?_iff]
  constructor
  · intro denotes
    obtain ⟨before, after, blankBefore, blankAfter, split⟩ :=
      Text.exists_eq_append_trim text.toList
    exact ⟨before, _, after, blankBefore, blankAfter, split, denotes⟩
  · rintro ⟨before, core, after, blankBefore, blankAfter, split, denotes⟩
    rw [split, Text.trim_append blankBefore blankAfter denotes.isBlank_eq_false]
    exact denotes

/-- What cannot be read is reported as it was given. -/
theorem parse_eq_error {text : String} {fault : Invalid} (failed : parse text = .error fault) :
    fault = ⟨text⟩ := by
  unfold parse at failed
  split at failed <;> cases failed
  rfl

/-- A text is read as a quantity exactly if it is written as one, and then the number that is
read is the one that is written.  Any other text is reported as it was given. -/
theorem parse_exact (text : String) :
    (∀ value, (∃ number, parse text = .ok number ∧ number.toRat = value) ↔ Writes text value) ∧
      (parse text = .error ⟨text⟩ ↔ ¬∃ value, Writes text value) := by
  refine ⟨fun value => exists_parse_iff, ?_⟩
  simp only [← exists_parse_iff]
  constructor
  · rintro failed ⟨value, number, isRead, -⟩
    rw [failed] at isRead
    cases isRead
  · intro unwritten
    cases isRead : parse text with
    | ok number => exact absurd ⟨_, number, isRead, rfl⟩ unwritten
    | error fault => rw [parse_eq_error isRead]

example : parse " -1.5Ki\n" = .ok ⟨-15360, 1⟩ := by decide +kernel

end Quantity

end Tenancy
