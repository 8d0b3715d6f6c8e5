import Tenancy.Json.Writer
import Tenancy.Proofs.Json.Shortest

/-!
# Reading written numbers

A number that is written is read back.  An integer that fits in 64 bits stays the same; a
finite number of another kind may come back as another decimal, which stands for the same
double.
-/

namespace Tenancy

/-- An integer fits in 64 bits, and another number is finite. -/
def JsonNumber.InRange : JsonNumber → Prop
  | .integer value => Width.fitsSigned 64 value = true ∨ Width.fitsUnsigned 64 value = true
  | .real _ significand exponent => Json.Reader.isFinite significand exponent = true

/-- Two numbers are the same integer, or they have one sign and stand for the same double. -/
def JsonNumber.Same : JsonNumber → JsonNumber → Prop
  | .integer value, .integer other => value = other
  | .real negative significand exponent, .real otherNegative otherSignificand otherExponent =>
      negative = otherNegative ∧
        (Json.Double.ofDecimal significand exponent).toRat =
          (Json.Double.ofDecimal otherSignificand otherExponent).toRat
  | _, _ => False

namespace Json

open Text

/-- What stands behind a number does not read as a part of it. -/
def EndsNumber (rest : List Char) : Prop :=
  ∀ char ∈ rest.head?, char.isDigit = false ∧ char ≠ '.' ∧ char ≠ 'e' ∧ char ≠ 'E'

theorem EndsNumber.nil : EndsNumber [] := by
  rintro char ⟨⟩

theorem EndsNumber.cons {char : Char} {rest : List Char} (isDigit : char.isDigit = false)
    (noPoint : char ≠ '.') (noSmall : char ≠ 'e') (noLarge : char ≠ 'E') :
    EndsNumber (char :: rest) := by
  rintro _ ⟨⟩
  exact ⟨isDigit, noPoint, noSmall, noLarge⟩

theorem EndsNumber.endsDigits {rest : List Char} (ends : EndsNumber rest) : EndsDigits rest :=
  fun char isFirst => (ends char isFirst).1

/-! ## The parts of a number -/

/-- The parts that a number is written with: a sign, digits, digits behind a point and an
exponent. -/
structure Numeral where
  negative : Bool
  whole : List Char
  fraction : Option (List Char)
  exponent : Option Int

namespace Numeral

/-- The digits behind a point and the exponent. -/
def tail (fraction : Option (List Char)) (exponent : Option Int) : List Char :=
  fraction.elim [] ('.' :: ·) ++ exponent.elim [] fun exponent => 'e' :: (toString exponent).toList

/-- The text of a number without its sign. -/
def unsigned (numeral : Numeral) : List Char :=
  numeral.whole ++ tail numeral.fraction numeral.exponent

/-- The text of a number with some parts. -/
def chars (numeral : Numeral) : List Char :=
  (if numeral.negative then ['-'] else []) ++ numeral.unsigned

/-- All digits of a number as an integer. -/
def significand (numeral : Numeral) : Nat :=
  Text.decimalValue (numeral.whole ++ numeral.fraction.getD []) 0

/-- The power of ten by which all digits are to be multiplied. -/
def scale (numeral : Numeral) : Int :=
  numeral.exponent.getD 0 - (numeral.fraction.getD []).length

/-- The number that the parts stand for, if it is in range. -/
def number? (numeral : Numeral) : Option JsonNumber :=
  let significand : Int :=
    if numeral.negative then -(numeral.significand : Int) else numeral.significand
  let isInteger := numeral.fraction.isNone && numeral.exponent.isNone &&
    !(numeral.negative && numeral.significand == 0)
  if isInteger && (Width.fitsSigned 64 significand || Width.fitsUnsigned 64 significand) then
    some (.integer significand)
  else if Reader.isFinite numeral.significand numeral.scale then
    some (.real numeral.negative numeral.significand numeral.scale)
  else none

/-- The parts are as they are written. -/
structure IsProper (numeral : Numeral) : Prop where
  whole : IsDigits numeral.whole
  noZero : numeral.whole = ['0'] ∨ numeral.whole.head? ≠ some '0'
  fraction : ∀ digits ∈ numeral.fraction, IsDigits digits

end Numeral

section Parts

variable {digits rest : List Char}

theorem wholeDigits?_append (isDigits : IsDigits digits)
    (noZero : digits = ['0'] ∨ digits.head? ≠ some '0') (ends : EndsDigits rest) :
    Reader.wholeDigits? (digits ++ rest) = some (digits, rest) := by
  rcases noZero with rfl | noZero
  · have noDigit : (rest.head?.map Char.isDigit).getD false = false := by
      cases rest with
      | nil => rfl
      | cons char rest => exact ends char rfl
    simp [Reader.wholeDigits?, noDigit]
  · have takes := isDigits.takeWhile_append ends
    have drops := isDigits.dropWhile_append ends
    obtain ⟨first, others, rfl, -⟩ := isDigits.exists_cons
    unfold Reader.wholeDigits?
    split
    next _ _ isZero =>
      cases isZero
      exact absurd rfl noZero
    next =>
      dsimp only
      rw [takes, drops, isDigits.isEmpty_eq_false]
      rfl

theorem fraction?_append {fraction : Option (List Char)}
    (isFraction : ∀ digits ∈ fraction, IsDigits digits) (ends : EndsDigits rest)
    (noPoint : rest.head? ≠ some '.') :
    Reader.fraction? (fraction.elim [] ('.' :: ·) ++ rest) = some (fraction, rest) := by
  cases fraction with
  | none =>
      change Reader.fraction? rest = _
      unfold Reader.fraction?
      split
      next => exact absurd rfl noPoint
      next => rfl
  | some digits =>
      have isDigits := isFraction digits rfl
      change Reader.fraction? ('.' :: (digits ++ rest)) = _
      simp only [Reader.fraction?]
      rw [isDigits.takeWhile_append ends, isDigits.dropWhile_append ends,
        isDigits.isEmpty_eq_false]
      rfl

theorem exponent?_append (exponent : Option Int) (ends : EndsNumber rest) :
    Reader.exponent?
        ((exponent.elim [] fun exponent => 'e' :: (toString exponent).toList) ++ rest) =
      some (exponent, rest) := by
  cases exponent with
  | none =>
      change Reader.exponent? rest = _
      unfold Reader.exponent?
      dsimp only
      split
      next => exact absurd rfl (ends _ rfl).2.2.1
      next => exact absurd rfl (ends _ rfl).2.2.2
      next => rfl
  | some exponent =>
      have isDigits := isDigits_toDigits exponent.natAbs
      have takes := isDigits.takeWhile_append ends.endsDigits
      have drops := isDigits.dropWhile_append ends.endsDigits
      change Reader.exponent? ('e' :: ((toString exponent).toList ++ rest)) = _
      rw [Text.toList_toString]
      split
      next negative =>
        have isValue : -(exponent.natAbs : Int) = exponent := by omega
        change Reader.exponent? ('e' :: '-' :: (Nat.toDigits 10 exponent.natAbs ++ rest)) = _
        simp only [Reader.exponent?, takes, drops, isDigits.isEmpty_eq_false,
          Text.decimalValue_toDigits, Bool.false_eq_true, if_false, if_true, isValue]
      next notNegative =>
        have isValue : (exponent.natAbs : Int) = exponent := by omega
        have hasValue := Text.decimalValue_toDigits exponent.natAbs
        have someDigits := isDigits.isEmpty_eq_false
        change Reader.exponent? ('e' :: (Nat.toDigits 10 exponent.natAbs ++ rest)) = _
        obtain ⟨first, others, isFirst, firstIsDigit⟩ := isDigits.exists_cons
        rw [isFirst] at takes drops hasValue someDigits ⊢
        simp only [Reader.exponent?, List.cons_append]
        split
        next _ _ isPlus =>
          cases isPlus
          exact absurd firstIsDigit (by decide)
        next _ _ isMinus =>
          cases isMinus
          exact absurd firstIsDigit (by decide)
        next =>
          rw [List.cons_append] at takes drops
          simp only [takes, drops, someDigits, hasValue, Bool.false_eq_true, if_false, isValue]

end Parts

namespace Numeral

variable {numeral : Numeral} {rest : List Char}

theorem endsDigits_tail (ends : EndsNumber rest) (fraction : Option (List Char))
    (exponent : Option Int) : EndsDigits (tail fraction exponent ++ rest) := by
  cases fraction with
  | some digits => rintro char ⟨⟩; rfl
  | none =>
      cases exponent with
      | some exponent => rintro char ⟨⟩; rfl
      | none => exact ends.endsDigits

theorem endsDigits_exponent (ends : EndsNumber rest) (exponent : Option Int) :
    EndsDigits ((exponent.elim [] fun exponent => 'e' :: (toString exponent).toList) ++ rest) :=
  endsDigits_tail ends none exponent

theorem head?_exponent (ends : EndsNumber rest) (exponent : Option Int) :
    ((exponent.elim [] fun exponent => 'e' :: (toString exponent).toList) ++ rest).head? ≠
      some '.' := by
  cases exponent with
  | some exponent => rintro ⟨⟩
  | none => exact fun isPoint => (ends _ isPoint).2.1 rfl

theorem sign_chars_append (proper : numeral.IsProper) (rest : List Char) :
    (match numeral.chars ++ rest with
      | '-' :: rest => (true, rest)
      | rest => (false, rest)) =
      (numeral.negative,
        numeral.whole ++ (tail numeral.fraction numeral.exponent ++ rest)) := by
  have parts : numeral.chars ++ rest = (if numeral.negative then ['-'] else []) ++
      (numeral.whole ++ (tail numeral.fraction numeral.exponent ++ rest)) := by
    simp only [chars, unsigned, List.append_assoc]
  rw [parts]
  cases numeral.negative with
  | true => rfl
  | false =>
      obtain ⟨first, others, isFirst, firstIsDigit⟩ := proper.whole.exists_cons
      split
      next isMinus =>
        rw [isFirst] at isMinus
        cases isMinus
        exact absurd firstIsDigit (by decide)
      next => rfl

theorem guard_bind {α : Type} (condition : Bool) (result : Option α) :
    ((guard (condition = true) : Option Unit).bind fun _ => result) =
      if condition then result else none := by
  cases condition <;> rfl

/-- A number is read by its parts. -/
theorem number?_chars_append (proper : numeral.IsProper) (ends : EndsNumber rest) :
    Reader.number? (numeral.chars ++ rest) =
      numeral.number?.map fun number => (.number number, rest) := by
  have wholeRead := wholeDigits?_append proper.whole proper.noZero
    (endsDigits_tail ends numeral.fraction numeral.exponent)
  have fractionRead := fraction?_append proper.fraction
    (endsDigits_exponent ends numeral.exponent) (head?_exponent ends numeral.exponent)
  have exponentRead := exponent?_append numeral.exponent ends
  rw [← List.append_assoc] at fractionRead
  unfold Reader.number?
  split
  next isRead =>
    cases (sign_chars_append proper rest).symm.trans isRead
    simp only [wholeRead, Option.bind_eq_bind, Option.bind_some]
    rw [tail, fractionRead]
    simp only [exponentRead, Option.bind_some, guard_bind]
    rw [number?, apply_ite (Option.map _), apply_ite (Option.map _)]
    rfl

/-- The parts write a decimal with some digits in a way that does not read as an integer. -/
structure LaysOut (numeral : Numeral) (digits : List Char) (exponent : Int) : Prop where
  proper : numeral.IsProper
  noInteger : (numeral.fraction.isNone && numeral.exponent.isNone) = false
  value : Double.scientific numeral.significand numeral.scale =
    Double.scientific (Text.decimalValue digits 0) exponent

/-- A number that is no integer is read as its digits and its scale. -/
theorem number?_of_noInteger
    (noInteger : (numeral.fraction.isNone && numeral.exponent.isNone) = false)
    (finite : Reader.isFinite numeral.significand numeral.scale = true) :
    numeral.number? = some (.real numeral.negative numeral.significand numeral.scale) := by
  simp only [number?, noInteger, Bool.false_and, Bool.false_eq_true, if_false, finite, if_true]

end Numeral

/-! ## Layouts -/

section Layout

open Double

variable {digits : List Char}

theorem scientific_mul_ten_pow (significand digits : Nat) (exponent : Int) :
    scientific (significand * 10 ^ digits) exponent =
      scientific significand (exponent + digits) := by
  rw [scientific, scientific, ten_zpow_add, zpow_natCast]
  push_cast
  ring

variable (isDigits : IsDigits digits) (noZero : digits.head? ≠ some '0') (negative : Bool)
  {exponent : Int}
include isDigits

theorem laysOut_behind (noZero : digits.head? ≠ some '0') (nonneg : 0 ≤ exponent) :
    Numeral.LaysOut
      ⟨negative, digits ++ List.replicate exponent.toNat '0', some ['0'], none⟩ digits
      exponent := by
  refine ⟨⟨isDigits.append fun _ => isDigit_of_mem_replicate_zero, .inr ?_, ?_⟩, rfl, ?_⟩
  · rwa [List.head?_append_of_ne_nil _ isDigits.notNil]
  · rintro _ ⟨⟩
    exact isDigits_zero
  · have zeros : Text.decimalValue (digits ++ List.replicate exponent.toNat '0' ++ ['0']) 0 =
        Text.decimalValue digits 0 * 10 ^ (exponent.toNat + 1) := by
      rw [List.append_assoc, ← List.replicate_succ', Text.decimalValue_append,
        Text.decimalValue_replicate_zero]
    simp only [Numeral.significand, Numeral.scale, Option.getD_some, Option.getD_none, zeros,
      scientific_mul_ten_pow]
    congr 1
    simp
    omega

theorem laysOut_inside (noZero : digits.head? ≠ some '0') (front : 0 < digits.length + exponent)
    (back : exponent < 0) :
    Numeral.LaysOut
      ⟨negative, digits.take (digits.length + exponent).toNat,
        some (digits.drop (digits.length + exponent).toNat), none⟩ digits exponent := by
  refine ⟨⟨⟨?_, ?_⟩, .inr ?_, ?_⟩, rfl, ?_⟩
  · exact fun char member => isDigits.isDigit char (List.mem_of_mem_take member)
  · simp [isDigits.notNil]
    omega
  · rwa [List.head?_take, if_neg (by omega)]
  · rintro _ ⟨⟩
    refine ⟨fun char member => isDigits.isDigit char (List.mem_of_mem_drop member), ?_⟩
    simp
    omega
  · simp only [Numeral.significand, Numeral.scale, Option.getD_some, Option.getD_none,
      List.take_append_drop, List.length_drop]
    congr 1
    omega

theorem laysOut_before (before : digits.length + exponent ≤ 0) :
    Numeral.LaysOut
      ⟨negative, ['0'],
        some (List.replicate (-(digits.length + exponent)).toNat '0' ++ digits), none⟩
      digits exponent := by
  refine ⟨⟨isDigits_zero, .inl rfl, ?_⟩, rfl, ?_⟩
  · rintro _ ⟨⟩
    refine ⟨fun char member => ?_, List.append_ne_nil_of_right_ne_nil _ isDigits.notNil⟩
    rcases List.mem_append.mp member with zero | digit
    · exact isDigit_of_mem_replicate_zero zero
    · exact isDigits.isDigit char digit
  · simp only [Numeral.significand, Numeral.scale, Option.getD_some, Option.getD_none,
      Text.decimalValue_append, List.length_append, List.length_replicate,
      Text.decimalValue_replicate_zero]
    have zero : Text.decimalValue ['0'] 0 = 0 := rfl
    rw [zero, Nat.zero_mul]
    congr 1
    omega

theorem laysOut_exponent (noZero : digits.head? ≠ some '0') :
    Numeral.LaysOut
      ⟨negative, digits.take 1, if (digits.drop 1).isEmpty then none else some (digits.drop 1),
        some (digits.length + exponent - 1)⟩ digits exponent := by
  obtain ⟨first, others, rfl, firstIsDigit⟩ := isDigits.exists_cons
  have fraction : (if others.isEmpty then none else some others).getD [] = others := by
    cases others <;> rfl
  refine ⟨⟨⟨by simpa using firstIsDigit, by simp⟩, .inr noZero, ?_⟩, by simp, ?_⟩
  · intro written isFraction
    cases others with
    | nil => cases isFraction
    | cons second others =>
        cases isFraction
        exact ⟨fun char member => isDigits.isDigit char (.tail _ member), List.cons_ne_nil _ _⟩
  · simp only [Numeral.significand, Numeral.scale, List.drop_succ_cons, List.drop_zero, fraction,
      List.take_succ_cons, List.take_zero, Option.getD_some, List.singleton_append,
      List.length_cons]
    congr 1
    push_cast
    omega

/-- Every layout of some digits consists of the parts of a number with the same value. -/
theorem exists_layout (noZero : digits.head? ≠ some '0') (exponent : Int) :
    ∃ numeral : Numeral, numeral.negative = negative ∧ numeral.LaysOut digits exponent ∧
      numeral.unsigned = layout digits exponent := by
  unfold layout
  dsimp only
  split
  next behind =>
    have position : 0 ≤ exponent ∧ digits.length + exponent ≤ 16 := by simpa using behind
    refine ⟨_, rfl, laysOut_behind isDigits negative noZero position.1, ?_⟩
    simp [Numeral.unsigned, Numeral.tail]
  next notBehind =>
    split
    next inside =>
      have position : 0 < digits.length + exponent ∧ digits.length + exponent ≤ 16 := by
        simpa using inside
      have fraction : exponent < 0 := by
        simp only [Bool.and_eq_true, decide_eq_true_iff] at notBehind
        omega
      refine ⟨_, rfl, laysOut_inside isDigits negative noZero position.1 fraction, ?_⟩
      simp [Numeral.unsigned, Numeral.tail]
    next =>
      split
      next before =>
        have position : -5 < digits.length + exponent ∧ digits.length + exponent ≤ 0 := by
          simpa using before
        refine ⟨_, rfl, laysOut_before isDigits negative position.2, ?_⟩
        simp [Numeral.unsigned, Numeral.tail]
      next =>
        refine ⟨_, rfl, laysOut_exponent isDigits negative noZero, ?_⟩
        simp only [Numeral.unsigned, Numeral.tail, List.append_assoc]
        split <;> rfl

end Layout

/-! ## Doubles -/

section Doubles

open Double

variable {significand : Nat} {exponent : Int}

/-- The decimal that is laid out for a double above zero: it stands for the double and does not
end with a zero. -/
theorem exists_stripped (some : 0 < (ofDecimal significand exponent).significand) :
    ∃ (digits : Nat) (scale : Int),
      Decimal.reduced.strip 20 (shortest significand exponent).1
        (shortest significand exponent).2 = ((digits : Int), scale) ∧
      0 < digits ∧ ofDecimal digits scale = ofDecimal significand exponent := by
  have stands := ofDecimal_shortest some
  have shortestPositive : 0 < (shortest significand exponent).1 := by
    rw [← stands] at some
    exact (isNear_ofDecimal some).1
  have same := Decimal.strip_mul 20 (shortest significand exponent).1
    (shortest significand exponent).2
  generalize Decimal.reduced.strip 20 _ _ = stripped at *
  obtain ⟨coefficient, scale⟩ := stripped
  have isPositive : 0 < scientific (shortest significand exponent).1
      (shortest significand exponent).2 :=
    scientific_pos_iff.mpr shortestPositive
  have coefficientPositive : 0 < coefficient := by
    have unitPositive : (0 : ℚ) < 10 ^ scale := by positivity
    rw [scientific, ← Int.cast_natCast, ← same, mul_pos_iff_of_pos_right unitPositive] at isPositive
    exact_mod_cast isPositive
  obtain ⟨digits, rfl⟩ := Int.eq_ofNat_of_zero_le coefficientPositive.le
  refine ⟨digits, scale, rfl, by omega, ?_⟩
  rw [← stands]
  refine ofDecimal_congr (by omega) shortestPositive ?_
  simpa [scientific] using same

/-- The double next to a decimal that stands for no double above zero. -/
theorem toRat_of_significand_eq_zero {double : Double} (isZero : double.significand = 0) :
    double.toRat = 0 := by
  rw [toRat, isZero, Nat.cast_zero, zero_mul]

section Texts

variable {rest : List Char}

/-- Zero is read back with its sign. -/
theorem number?_text_of_zero (isZero : (ofDecimal significand exponent).significand = 0)
    (negative : Bool) (ends : EndsNumber rest) :
    Reader.number? ((Double.text negative significand exponent).toList ++ rest) =
      some (.number (.real negative 0 (-1)), rest) := by
  have written : (Double.text negative significand exponent).toList =
      Numeral.chars ⟨negative, ['0'], some ['0'], none⟩ := by
    rw [Double.text, if_pos isZero, String.toList_ofList]
    rfl
  have proper : Numeral.IsProper ⟨negative, ['0'], some ['0'], none⟩ := by
    refine ⟨isDigits_zero, .inl rfl, ?_⟩
    rintro _ ⟨⟩
    exact isDigits_zero
  rw [written, Numeral.number?_chars_append proper ends, Numeral.number?_of_noInteger rfl rfl]
  rfl

/-- A double above zero is read back as a decimal that stands for it. -/
theorem exists_number?_text (isSome : 0 < (ofDecimal significand exponent).significand)
    (finite : Reader.isFinite significand exponent = true) (negative : Bool)
    (ends : EndsNumber rest) :
    ∃ readSignificand readExponent,
      Reader.number? ((Double.text negative significand exponent).toList ++ rest) =
        some (.number (.real negative readSignificand readExponent), rest) ∧
      ofDecimal readSignificand readExponent = ofDecimal significand exponent := by
  obtain ⟨digits, scale, isStripped, positive, stands⟩ := exists_stripped isSome
  obtain ⟨numeral, rfl, laysOut, isUnsigned⟩ := exists_layout (isDigits_toDigits digits) negative
    (Text.head?_toDigits_ne_zero positive) scale
  have isWritten : (toString (digits : Int)).toList = Nat.toDigits 10 digits := by
    rw [Text.toList_toString, if_neg (by omega)]
    rfl
  have written : (Double.text numeral.negative significand exponent).toList = numeral.chars := by
    rw [Double.text, if_neg (by omega)]
    simp only [isStripped, String.toList_ofList, Numeral.chars, isUnsigned, isWritten]
  have value := laysOut.value
  rw [Text.decimalValue_toDigits] at value
  have numeralPositive : 0 < numeral.significand := by
    rw [← scientific_pos_iff, value]
    exact scientific_pos_iff.mpr positive
  have alsoStands := (ofDecimal_congr numeralPositive positive value).trans stands
  have alsoFinite : Reader.isFinite numeral.significand numeral.scale = true := by
    rw [isFinite_iff_exponent (alsoStands ▸ isSome), alsoStands]
    exact (isFinite_iff_exponent isSome).mp finite
  refine ⟨_, _, ?_, alsoStands⟩
  rw [written, Numeral.number?_chars_append laysOut.proper ends,
    Numeral.number?_of_noInteger laysOut.noInteger alsoFinite]
  rfl

/-- A number that is no integer is read back as one that stands for the same double. -/
theorem number?_text (finite : Reader.isFinite significand exponent = true) (negative : Bool)
    (ends : EndsNumber rest) :
    ∃ readSignificand readExponent,
      Reader.number? ((Double.text negative significand exponent).toList ++ rest) =
        some (.number (.real negative readSignificand readExponent), rest) ∧
      (ofDecimal readSignificand readExponent).toRat =
        (ofDecimal significand exponent).toRat := by
  rcases Nat.eq_zero_or_pos (ofDecimal significand exponent).significand with isZero | isSome
  · refine ⟨0, -1, number?_text_of_zero isZero negative ends, ?_⟩
    rw [toRat_of_significand_eq_zero isZero, ofDecimal_of_vanishing (.inl rfl)]
    exact toRat_of_significand_eq_zero rfl
  · obtain ⟨readSignificand, readExponent, isRead, stands⟩ :=
      exists_number?_text isSome finite negative ends
    exact ⟨readSignificand, readExponent, isRead, congrArg toRat stands⟩

end Texts

end Doubles

/-! ## Numbers -/

/-- An integer that fits in 64 bits is read back. -/
theorem number?_integer {value : Int}
    (fits : Width.fitsSigned 64 value = true ∨ Width.fitsUnsigned 64 value = true)
    {rest : List Char} (ends : EndsNumber rest) :
    Reader.number? ((toString value).toList ++ rest) =
      some (.number (.integer value), rest) := by
  have isDigits := isDigits_toDigits value.natAbs
  have proper : Numeral.IsProper
      ⟨decide (value < 0), Nat.toDigits 10 value.natAbs, none, none⟩ := by
    refine ⟨isDigits, ?_, by rintro _ ⟨⟩⟩
    rcases Nat.eq_zero_or_pos value.natAbs with isZero | positive
    · rw [isZero]
      exact .inl rfl
    · exact .inr (Text.head?_toDigits_ne_zero positive)
  have written : (toString value).toList =
      Numeral.chars ⟨decide (value < 0), Nat.toDigits 10 value.natAbs, none, none⟩ := by
    rw [Text.toList_toString]
    simp [Numeral.chars, Numeral.unsigned, Numeral.tail]
  rw [written, Numeral.number?_chars_append proper ends]
  have isValue : (if decide (value < 0) then -(value.natAbs : Int) else value.natAbs) = value := by
    by_cases negative : value < 0
    · simp only [negative, decide_true, if_true]
      omega
    · simp only [negative, decide_false, Bool.false_eq_true, if_false]
      omega
  have noNegativeZero : (decide (value < 0) && value.natAbs == 0) = false := by
    rw [Bool.and_eq_false_iff, decide_eq_false_iff_not, beq_eq_false_iff_ne]
    omega
  simp only [Numeral.number?, Numeral.significand, Option.getD_none, List.append_nil,
    Text.decimalValue_toDigits, isValue, noNegativeZero, Option.isNone_none, Bool.and_true,
    Bool.not_false, Bool.true_and]
  rw [if_pos (by simpa using fits)]
  rfl

/-- A number in range is read back as the same one. -/
theorem number?_numberText {number : JsonNumber} (inRange : number.InRange) {rest : List Char}
    (ends : EndsNumber rest) :
    ∃ read, Reader.number? ((Writer.numberText number).toList ++ rest) =
        some (.number read, rest) ∧ read.Same number := by
  cases number with
  | integer value => exact ⟨.integer value, number?_integer inRange ends, rfl⟩
  | real negative significand exponent =>
      obtain ⟨readSignificand, readExponent, isRead, same⟩ := number?_text inRange negative ends
      exact ⟨.real negative readSignificand readExponent, isRead, rfl, same⟩

end Json

end Tenancy
