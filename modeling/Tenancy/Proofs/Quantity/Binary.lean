import Tenancy.Proofs.Decimal.Whole
import Tenancy.Proofs.Quantity.Text
import Tenancy.Quantity.Binary

/-!
# Byte counts that are read back

A byte count of at most a hundred digits is written with the largest binary suffix whose unit
divides it, and reading it gives the count back.  Of longer ones the division loses digits, so
that a unit may be taken that does not divide the count; what is written is then off in the last
of a hundred digits.
-/

namespace Tenancy

namespace Quantity

open Decimal (IsShort)

/-- A value is a multiple other than zero of a power of two. -/
def IsMultiple (value : ℚ) (power : ℕ) : Prop :=
  ∃ units : ℤ, units ≠ 0 ∧ value = units * 2 ^ power

/-! ## Units -/

theorem isSuffix_of_mem_binarySuffixes {entry : String × ℕ} (member : entry ∈ binarySuffixes) :
    IsSuffix entry.1.toList (2 ^ entry.2) := by
  obtain ⟨place, isPlace, isText, isPower⟩ := exists_of_mem_binarySuffixes entry member
  rw [isText, isPower]
  exact .binary (List.mem_zipIdx_iff_getElem?.mp isPlace)

/-- The units of the binary suffixes lie close above powers of ten. -/
theorem exists_pow_between : ∀ entry ∈ binarySuffixes, ∃ power : ℕ,
    10 ^ power ≤ 2 ^ entry.2 ∧ 2 ^ entry.2 < 2 * 10 ^ power := by
  simp only [binarySuffixes, List.forall_mem_cons, List.not_mem_nil, false_imp_iff,
    implies_true, and_true]
  exact ⟨⟨3, by norm_num⟩, ⟨6, by norm_num⟩, ⟨9, by norm_num⟩, ⟨12, by norm_num⟩,
    ⟨15, by norm_num⟩, ⟨18, by norm_num⟩⟩

theorem toRat_unit (power : ℕ) : (Decimal.ofInt (Nat.pow 2 power)).toRat = (2 ^ power : ℕ) := by
  rw [Decimal.toRat_ofInt]
  rfl

/-- The units that are counted are what the quotient rounds to. -/
theorem wholeUnits?_eq_some_iff {bytes : Decimal} {power : ℕ} {units : ℤ} :
    wholeUnits? bytes power = some units ↔
      units ≠ 0 ∧ (bytes / Decimal.ofInt (Nat.pow 2 power)).toRat = units := by
  rw [wholeUnits?]
  generalize bytes / Decimal.ofInt (Nat.pow 2 power) = quotient
  rw [Option.ite_none_right_eq_some, Bool.and_eq_true, Bool.not_eq_true', Option.some.injEq]
  have isZero_iff : quotient.isZero = false ↔ quotient.toRat ≠ 0 := by
    rw [← Bool.not_eq_true, Decimal.isZero_iff, ← Decimal.toRat_eq_zero_iff]
  constructor
  · rintro ⟨⟨someUnits, integral⟩, rfl⟩
    have isValue := Decimal.truncate_of_isInteger integral
    rw [isZero_iff, ← isValue] at someUnits
    exact ⟨Int.cast_ne_zero.mp someUnits, isValue.symm⟩
  · rintro ⟨someUnits, isValue⟩
    have integral := (Decimal.isInteger_iff quotient).mpr ⟨units, isValue⟩
    refine ⟨⟨isZero_iff.mpr (isValue ▸ Int.cast_ne_zero.mpr someUnits), integral⟩, ?_⟩
    exact Int.cast_injective (α := ℚ) (by rw [Decimal.truncate_of_isInteger integral, isValue])

/-- Whole units of a short number make up all of it. -/
theorem toRat_eq_of_isShort {bytes : Decimal} (short : IsShort bytes.toRat)
    {entry : String × ℕ} (member : entry ∈ binarySuffixes) {units : ℤ}
    (counted : wholeUnits? bytes entry.2 = some units) :
    bytes.toRat = units * 2 ^ entry.2 := by
  obtain ⟨power, lower, upper⟩ := exists_pow_between entry member
  have unitSome : ((2 ^ entry.2 : ℕ) : ℚ) ≠ 0 := by positivity
  have isValue := (wholeUnits?_eq_some_iff.mp counted).2
  have integral := (Decimal.isInteger_iff _).mpr ⟨units, isValue⟩
  rw [Decimal.toRat_divide_of_isInteger short (toRat_unit _) lower upper integral,
    div_eq_iff unitSome] at isValue
  exact_mod_cast isValue

/-- Of a multiple of a unit whole units are counted. -/
theorem exists_wholeUnits?_of_isMultiple {bytes : Decimal} {power : ℕ}
    (isMultiple : IsMultiple bytes.toRat power) :
    ∃ units, wholeUnits? bytes power = some units := by
  obtain ⟨units, someUnits, isUnits⟩ := isMultiple
  have unitPositive : 0 < (Decimal.ofInt (Nat.pow 2 power)).toRat := by
    rw [toRat_unit]
    positivity
  have isQuotient : bytes.toRat / (Decimal.ofInt (Nat.pow 2 power)).toRat = units := by
    rw [div_eq_iff unitPositive.ne', isUnits, toRat_unit]
    push_cast
    rfl
  have integral := Decimal.isInteger_divide_of_whole bytes unitPositive isQuotient
  obtain ⟨whole, isWhole⟩ := (Decimal.isInteger_iff _).mp integral
  have close := (Decimal.rounds_divide bytes unitPositive).abs_sub_le
  refine ⟨whole, wholeUnits?_eq_some_iff.mpr ⟨?_, isWhole⟩⟩
  rintro rfl
  rw [isWhole, isQuotient, Int.cast_zero, zero_sub, abs_neg, le_div_iff₀ (by norm_num)] at close
  have large : (0 : ℚ) < |(units : ℚ)| := abs_pos.mpr (Int.cast_ne_zero.mpr someUnits)
  linarith

/-- What is counted in units of a number is off by less than a hundred digits tell apart. -/
theorem abs_units_sub_le {bytes : Decimal} {power : ℕ} {units : ℤ}
    (counted : wholeUnits? bytes power = some units) :
    |units * 2 ^ power - bytes.toRat| ≤ |bytes.toRat| / (2 * 10 ^ 99) := by
  have unitPositive : (0 : ℚ) < 2 ^ power := by positivity
  have isUnit : (Decimal.ofInt (Nat.pow 2 power)).toRat = 2 ^ power := by
    rw [toRat_unit, Nat.cast_pow, Nat.cast_ofNat]
  have rounds := Decimal.rounds_divide bytes (isUnit ▸ unitPositive)
  have close := rounds.abs_sub_le
  rw [(wholeUnits?_eq_some_iff.mp counted).2, isUnit] at close
  have backwards (value : ℚ) : |value / 2 ^ power| * 2 ^ power = |value| := by
    rw [abs_div, abs_of_pos unitPositive, div_mul_cancel₀ _ unitPositive.ne']
  calc
    |units * 2 ^ power - bytes.toRat| = |units - bytes.toRat / 2 ^ power| * 2 ^ power := by
      rw [← backwards (units * 2 ^ power - bytes.toRat), sub_div,
        mul_div_cancel_right₀ _ unitPositive.ne']
    _ ≤ |bytes.toRat / 2 ^ power| / (2 * 10 ^ 99) * 2 ^ power :=
      mul_le_mul_of_nonneg_right close unitPositive.le
    _ = |bytes.toRat| / (2 * 10 ^ 99) := by rw [div_mul_eq_mul_div, backwards]

/-! ## Numbers that are not small -/

theorem inReach_of_half_le {value : ℚ} (large : 1 / 2 ≤ |value|) : InReach value := by
  intro _
  calc
    (10 : ℚ) ^ (-2 ^ 31 : ℤ) ≤ 10 ^ (-1 : ℤ) :=
      zpow_le_zpow_right₀ (by norm_num) (by norm_num)
    _ ≤ 1 / 2 := by norm_num
    _ ≤ |value| := large

theorem inReach_intCast (whole : ℤ) : InReach whole := by
  intro notZero
  have large : (1 : ℚ) ≤ |(whole : ℚ)| := by
    exact_mod_cast Int.one_le_abs (Int.cast_ne_zero.mp notZero)
  exact inReach_of_half_le (by linarith) notZero

/-- A number of which whole units are counted is not small. -/
theorem inReach_of_wholeUnits? {bytes : Decimal} {power : ℕ} {units : ℤ}
    (counted : wholeUnits? bytes power = some units) : InReach bytes.toRat := by
  have someUnits := (wholeUnits?_eq_some_iff.mp counted).1
  have large : (1 : ℚ) ≤ |(units : ℚ) * 2 ^ power| := by
    have isLarge := one_le_mul_of_one_le_of_one_le (Int.one_le_abs someUnits)
      (one_le_pow₀ (by norm_num : (1 : ℤ) ≤ 2) (n := power))
    rw [abs_mul, abs_of_pos (by positivity : (0 : ℚ) < 2 ^ power)]
    exact_mod_cast isLarge
  have close := abs_units_sub_le counted
  have apart := abs_sub_abs_le_abs_sub ((units : ℚ) * 2 ^ power) bytes.toRat
  refine inReach_of_half_le ?_
  linarith

/-! ## Numbers without a suffix -/

/-- A number as it is written without a suffix. -/
def plain (bytes : Decimal) : String :=
  if bytes.isInteger then toString bytes.truncate else bytes.toText

theorem notZero_of_isInteger_eq_false {number : Decimal} (fraction : number.isInteger = false) :
    number.coefficient ≠ 0 ∧ 0 ≤ number.scale := by
  rw [← Bool.not_eq_true, Decimal.isInteger, Bool.or_eq_true, not_or, decide_eq_true_iff,
    not_le] at fraction
  refine ⟨fun isZero => fraction.2 ?_, fraction.1.le⟩
  rw [isZero, Int.zero_emod]
  rfl

/-- A number in reach of an exponent is read back. -/
theorem writes_plain {bytes : Decimal} (inReach : InReach bytes.toRat) :
    Writes (plain bytes) bytes.toRat := by
  unfold plain
  split
  next integral => exact Decimal.truncate_of_isInteger integral ▸ writes_toString bytes.truncate
  next fraction =>
    obtain ⟨notZero, nonneg⟩ := notZero_of_isInteger_eq_false (Bool.not_eq_true _ ▸ fraction)
    exact writes_toText notZero nonneg inReach

theorem inReach_of_writes_plain {bytes : Decimal} {value : ℚ}
    (writes : Writes (plain bytes) value) : InReach bytes.toRat := by
  unfold plain at writes
  split at writes
  next integral => exact Decimal.truncate_of_isInteger integral ▸ inReach_intCast bytes.truncate
  next fraction =>
    obtain ⟨notZero, nonneg⟩ := notZero_of_isInteger_eq_false (Bool.not_eq_true _ ▸ fraction)
    exact inReach_of_writes_toText notZero nonneg writes

theorem notMem_toString (value : ℤ) : 'i' ∉ (toString value).toList := by
  rw [Text.toList_toString, List.mem_append, not_or]
  constructor
  · split <;> simp
  · intro member
    cases Text.isDigit_of_mem_toDigits member

/-- A number without a suffix does not end in one. -/
theorem not_isSuffix_plain (bytes : Decimal) {entry : String × ℕ}
    (member : entry ∈ binarySuffixes) : ¬entry.1.toList <:+ (plain bytes).toList := by
  obtain ⟨place, -, isText, -⟩ := exists_of_mem_binarySuffixes entry member
  have noLetter : 'i' ∉ (plain bytes).toList := by
    unfold plain
    split
    next => exact notMem_toString _
    next => exact notMem_toText bytes
  intro endsIn
  exact noLetter (endsIn.subset (by simp [isText]))

/-! ## The unit that is taken -/

theorem formatWith_eq_findSome? (bytes : Decimal) (suffixes : List (String × ℕ)) :
    formatWith bytes suffixes = suffixes.findSome? fun entry =>
      (wholeUnits? bytes entry.2).map fun units => toString units ++ entry.1 := by
  induction suffixes with
  | nil => rfl
  | cons entry suffixes ih =>
      rw [formatWith, List.findSome?_cons, ih]
      cases wholeUnits? bytes entry.2 with
      | none => rfl
      | some units => rfl

/-- A suffix has the largest unit of which a whole number is counted. -/
structure Takes (bytes : Decimal) (entry : String × ℕ) (units : ℤ) : Prop where
  member : entry ∈ binarySuffixes
  counted : wholeUnits? bytes entry.2 = some units
  noneLarger : ∀ other ∈ binarySuffixes, entry.2 < other.2 → wholeUnits? bytes other.2 = none

/-- How a number is written, with the value that is written: in the largest units of which a
whole number is counted, or plainly if there are none. -/
inductive Written (bytes : Decimal) : String → ℚ → Prop
  | inUnits {entry : String × ℕ} {units : ℤ} : Takes bytes entry units →
      Written bytes (toString units ++ entry.1) (units * 2 ^ entry.2)
  | plainly : (∀ entry ∈ binarySuffixes, wholeUnits? bytes entry.2 = none) →
      Written bytes (plain bytes) bytes.toRat

/-- The suffixes are tried from the largest to the smallest. -/
theorem exists_written (bytes : Decimal) : ∃ value, Written bytes (formatBinary bytes) value := by
  have descending : binarySuffixes.reverse.Pairwise fun first second => second.2 < first.2 := by
    decide
  unfold formatBinary
  split
  next text found =>
    rw [formatWith_eq_findSome?, List.findSome?_eq_some_iff] at found
    obtain ⟨before, entry, after, split, isText, noneBefore⟩ := found
    obtain ⟨units, counted, rfl⟩ := Option.map_eq_some_iff.mp isText
    have member : entry ∈ binarySuffixes :=
      List.mem_reverse.mp (split ▸ List.mem_append_right _ List.mem_cons_self)
    refine ⟨_, .inUnits ⟨member, counted, fun other otherMember larger => ?_⟩⟩
    rw [split, List.pairwise_append, List.pairwise_cons] at descending
    rw [← List.mem_reverse, split, List.mem_append, List.mem_cons] at otherMember
    rcases otherMember with isBefore | rfl | isAfter
    · simpa using noneBefore other isBefore
    · exact absurd larger (lt_irrefl _)
    · exact absurd larger (descending.2.1.1 other isAfter).not_gt
  next noneFound =>
    rw [formatWith_eq_findSome?, List.findSome?_eq_none_iff] at noneFound
    refine ⟨_, .plainly fun entry member => ?_⟩
    simpa using noneFound entry (List.mem_reverse.mpr member)

/-- A text ends in one binary suffix at most. -/
theorem eq_of_isSuffix {text : List Char} {first second : String × ℕ}
    (firstMember : first ∈ binarySuffixes) (secondMember : second ∈ binarySuffixes)
    (endsInFirst : first.1.toList <:+ text) (endsInSecond : second.1.toList <:+ text) :
    first = second := by
  have length_eq : ∀ entry ∈ binarySuffixes, entry.1.toList.length = 2 := by decide
  have eq_of_text : ∀ first ∈ binarySuffixes, ∀ second ∈ binarySuffixes,
      first.1.toList = second.1.toList → first = second := by decide
  have sameLength := (length_eq first firstMember).trans (length_eq second secondMember).symm
  have inSecond := List.suffix_of_suffix_length_le endsInFirst endsInSecond sameLength.le
  exact eq_of_text first firstMember second secondMember (inSecond.eq_of_length sameLength)

theorem eq_of_power : ∀ first ∈ binarySuffixes, ∀ second ∈ binarySuffixes,
    first.2 = second.2 → first = second := by
  decide

namespace Takes

variable {bytes : Decimal} {entry : String × ℕ} {units : ℤ} (takes : Takes bytes entry units)
include takes

theorem le_of_counted {other : String × ℕ} (member : other ∈ binarySuffixes) {others : ℤ}
    (counted : wholeUnits? bytes other.2 = some others) : other.2 ≤ entry.2 := by
  by_contra larger
  rw [takes.noneLarger other member (not_le.mp larger)] at counted
  cases counted

/-- Only one suffix is taken, and only one number of its units is counted. -/
theorem unique {other : String × ℕ} {others : ℤ} (alsoTakes : Takes bytes other others) :
    entry = other ∧ units = others := by
  have samePower := le_antisymm (alsoTakes.le_of_counted takes.member takes.counted)
    (takes.le_of_counted alsoTakes.member alsoTakes.counted)
  have sameUnits := takes.counted.symm.trans (samePower ▸ alsoTakes.counted)
  exact ⟨eq_of_power entry takes.member other alsoTakes.member samePower,
    Option.some.inj sameUnits⟩

end Takes

/-- The units that are counted of a number make up all of it. -/
def CountsAll (bytes : Decimal) : Prop :=
  ∀ entry units, Takes bytes entry units → bytes.toRat = units * 2 ^ entry.2

theorem countsAll_of_isShort {bytes : Decimal} (short : IsShort bytes.toRat) : CountsAll bytes :=
  fun _ _ takes => toRat_eq_of_isShort short takes.member takes.counted

namespace Written

variable {bytes : Decimal} {text : String} {value : ℚ} (written : Written bytes text value)
include written

/-- A text ends in a suffix exactly if the suffix is taken. -/
theorem isSuffix_iff {entry : String × ℕ} (member : entry ∈ binarySuffixes) :
    entry.1.toList <:+ text.toList ↔ ∃ units, Takes bytes entry units := by
  cases written with
  | @inUnits taken units takes =>
      have endsInTaken : taken.1.toList <:+ (toString units ++ taken.1).toList := by
        rw [String.toList_append]
        exact List.suffix_append _ _
      constructor
      · intro endsIn
        obtain rfl := eq_of_isSuffix member takes.member endsIn endsInTaken
        exact ⟨units, takes⟩
      · rintro ⟨others, alsoTakes⟩
        obtain ⟨rfl, -⟩ := takes.unique alsoTakes
        exact endsInTaken
  | plainly noUnits =>
      refine iff_of_false (not_isSuffix_plain bytes member) ?_
      rintro ⟨units, takes⟩
      exact Option.some_ne_none units (takes.counted.symm.trans (noUnits entry member))

/-- If units are counted at all, some are taken. -/
theorem exists_takes {entry : String × ℕ} (member : entry ∈ binarySuffixes) {units : ℤ}
    (counted : wholeUnits? bytes entry.2 = some units) :
    ∃ other others, Takes bytes other others := by
  cases written with
  | inUnits takes => exact ⟨_, _, takes⟩
  | plainly noUnits =>
      exact absurd (counted.symm.trans (noUnits entry member)) (Option.some_ne_none units)

/-- What is written of a number in reach of an exponent is read. -/
theorem writes (inReach : InReach bytes.toRat) : Writes text value := by
  cases written with
  | inUnits takes => exact writes_toString_append _ (isSuffix_of_mem_binarySuffixes takes.member)
  | plainly => exact writes_plain inReach

/-- What is written of a number out of reach is not read. -/
theorem inReach_of_writes {read : ℚ} (writes : Writes text read) : InReach bytes.toRat := by
  cases written with
  | inUnits takes => exact inReach_of_wholeUnits? takes.counted
  | plainly => exact inReach_of_writes_plain writes

/-- What is written is off by less than a hundred digits tell apart. -/
theorem abs_sub_le : |value - bytes.toRat| ≤ |bytes.toRat| / (2 * 10 ^ 99) := by
  cases written with
  | inUnits takes => exact abs_units_sub_le takes.counted
  | plainly =>
      rw [sub_self, abs_zero]
      positivity

/-- What is written is the number exactly if the units that are counted make up all of it. -/
theorem eq_toRat_iff : value = bytes.toRat ↔ CountsAll bytes := by
  cases written with
  | inUnits takes =>
      constructor
      · intro isAll entry units alsoTakes
        obtain ⟨rfl, rfl⟩ := takes.unique alsoTakes
        exact isAll.symm
      · exact fun countsAll => (countsAll _ _ takes).symm
  | plainly noUnits =>
      refine iff_of_true rfl fun entry units takes => ?_
      have notCounted := takes.counted.symm.trans (noUnits entry takes.member)
      exact absurd notCounted (Option.some_ne_none units)

end Written

/-! ## Reading back -/

/-- A text denotes one value at most. -/
theorem Writes.unique {text : String} {first second : ℚ} (isFirst : Writes text first)
    (isSecond : Writes text second) : first = second := by
  obtain ⟨number, isRead, rfl⟩ := exists_parse_iff.mpr isFirst
  obtain ⟨other, alsoRead, rfl⟩ := exists_parse_iff.mpr isSecond
  rw [Except.ok.inj (isRead.symm.trans alsoRead)]

/-- What is written of a number is read exactly if the number is in reach of an exponent. -/
theorem exists_parse_formatBinary_iff (bytes : Decimal) :
    (∃ number, parse (formatBinary bytes) = .ok number) ↔ InReach bytes.toRat := by
  obtain ⟨value, written⟩ := exists_written bytes
  constructor
  · rintro ⟨number, isRead⟩
    exact written.inReach_of_writes (exists_parse_iff.mp ⟨number, isRead, rfl⟩)
  · intro inReach
    obtain ⟨number, isRead, -⟩ := exists_parse_iff.mpr (written.writes inReach)
    exact ⟨number, isRead⟩

/-- What is read of a number that is written is off by less than a hundred digits tell apart. -/
theorem abs_sub_le_of_parse_formatBinary {bytes number : Decimal}
    (isRead : parse (formatBinary bytes) = .ok number) :
    |number.toRat - bytes.toRat| ≤ |bytes.toRat| / (2 * 10 ^ 99) := by
  obtain ⟨value, written⟩ := exists_written bytes
  have inReach := (exists_parse_formatBinary_iff bytes).mp ⟨number, isRead⟩
  have isNumber := exists_parse_iff.mp ⟨number, isRead, rfl⟩
  rw [isNumber.unique (written.writes inReach)]
  exact written.abs_sub_le

/-! ## Exact texts -/

/-- A multiple of a larger unit is one of a smaller unit. -/
theorem IsMultiple.of_le {value : ℚ} {smaller larger : ℕ} (isMultiple : IsMultiple value larger)
    (le : smaller ≤ larger) : IsMultiple value smaller := by
  obtain ⟨units, someUnits, rfl⟩ := isMultiple
  obtain ⟨power, rfl⟩ := Nat.exists_eq_add_of_le le
  refine ⟨units * 2 ^ power, mul_ne_zero someUnits (by positivity), ?_⟩
  push_cast
  ring

/-- A text says exactly how many bytes there are: reading it gives the number of bytes, and it
ends in the largest binary suffix whose unit divides the number, if the number is a multiple of
1024 other than zero, and in no binary suffix if it is not. -/
structure IsExact (text : String) (value : ℚ) : Prop where
  isRead : ∃ number, parse text = .ok number ∧ number.toRat = value
  isSuffix_iff : ∀ entry ∈ binarySuffixes, (entry.1.toList <:+ text.toList ↔
    IsMultiple value entry.2 ∧
      ∀ other ∈ binarySuffixes, IsMultiple value other.2 → other.2 ≤ entry.2)
  exists_isSuffix_iff : (∃ entry ∈ binarySuffixes, entry.1.toList <:+ text.toList) ↔
    IsMultiple value 10

section Exact

variable {bytes : Decimal} (countsAll : CountsAll bytes)
include countsAll

theorem Takes.isMultiple {entry : String × ℕ} {units : ℤ} (takes : Takes bytes entry units) :
    IsMultiple bytes.toRat entry.2 :=
  ⟨units, (wholeUnits?_eq_some_iff.mp takes.counted).1, countsAll entry units takes⟩

/-- If the units that are counted make up all of a number, the suffix that is taken is the largest
whose unit divides it. -/
theorem exists_takes_iff {entry : String × ℕ} (member : entry ∈ binarySuffixes) :
    (∃ units, Takes bytes entry units) ↔ IsMultiple bytes.toRat entry.2 ∧
      ∀ other ∈ binarySuffixes, IsMultiple bytes.toRat other.2 → other.2 ≤ entry.2 := by
  constructor
  · rintro ⟨units, takes⟩
    refine ⟨takes.isMultiple countsAll, fun other otherMember isMultiple => ?_⟩
    obtain ⟨others, counted⟩ := exists_wholeUnits?_of_isMultiple isMultiple
    exact takes.le_of_counted otherMember counted
  · rintro ⟨isMultiple, largest⟩
    obtain ⟨units, counted⟩ := exists_wholeUnits?_of_isMultiple isMultiple
    obtain ⟨_, written⟩ := exists_written bytes
    obtain ⟨taken, takenUnits, takes⟩ := written.exists_takes member counted
    have samePower := le_antisymm (takes.le_of_counted member counted)
      (largest taken takes.member (takes.isMultiple countsAll))
    rw [eq_of_power entry member taken takes.member samePower]
    exact ⟨takenUnits, takes⟩

theorem exists_takes_iff_isMultiple :
    (∃ entry ∈ binarySuffixes, ∃ units, Takes bytes entry units) ↔
      IsMultiple bytes.toRat 10 := by
  constructor
  · rintro ⟨entry, member, units, takes⟩
    have least : ∀ entry ∈ binarySuffixes, 10 ≤ entry.2 := by decide
    exact (takes.isMultiple countsAll).of_le (least entry member)
  · intro isMultiple
    have kibi : ("Ki", 10) ∈ binarySuffixes := List.mem_cons_self
    obtain ⟨units, counted⟩ := exists_wholeUnits?_of_isMultiple isMultiple
    obtain ⟨_, written⟩ := exists_written bytes
    obtain ⟨taken, takenUnits, takes⟩ := written.exists_takes kibi counted
    exact ⟨taken, takes.member, takenUnits, takes⟩

end Exact

/-- A number is written exactly if it is in reach of an exponent and the units that are counted
make up all of it, and otherwise not. -/
theorem isExact_formatBinary_iff (bytes : Decimal) :
    IsExact (formatBinary bytes) bytes.toRat ↔ InReach bytes.toRat ∧ CountsAll bytes := by
  obtain ⟨value, written⟩ := exists_written bytes
  constructor
  · intro isExact
    have isRead := exists_parse_iff.mp isExact.isRead
    have inReach := written.inReach_of_writes isRead
    exact ⟨inReach, written.eq_toRat_iff.mp ((written.writes inReach).unique isRead)⟩
  · rintro ⟨inReach, countsAll⟩
    have isNumber := written.eq_toRat_iff.mpr countsAll
    refine ⟨exists_parse_iff.mpr (isNumber ▸ written.writes inReach), ?_, ?_⟩
    · intro entry member
      rw [written.isSuffix_iff member, exists_takes_iff countsAll member]
    · rw [← exists_takes_iff_isMultiple countsAll]
      refine exists_congr fun entry => and_congr_right fun member => ?_
      exact written.isSuffix_iff member

/-- A short number in reach of an exponent is written exactly. -/
theorem isExact_formatBinary {bytes : Decimal} (short : IsShort bytes.toRat)
    (inReach : InReach bytes.toRat) : IsExact (formatBinary bytes) bytes.toRat :=
  (isExact_formatBinary_iff bytes).mpr ⟨inReach, countsAll_of_isShort short⟩

end Quantity

end Tenancy
