import Mathlib.Data.List.Infix
import Mathlib.Data.Option.Basic
import Mathlib.Tactic.Common
import Tenancy.Regex.Parser

/-!
# Readers that do not depend on what follows

A reader of patterns takes a beginning of its input.  If it stops in front of a given end of the
input, it reads the same without that end.
-/

namespace Tenancy.Regex

variable {α β : Type} {tail : List Char}

/-! ## Readers -/

/-- A reader takes a beginning of its input, and reads the same without an end of the input that
it does not come to. -/
structure IsLocal (tail : List Char) (reader : List Char → Option (α × List Char)) : Prop where
  isSuffix : ∀ {input value rest}, reader input = some (value, rest) → rest <:+ input
  alone : ∀ {input value rest},
    reader (input ++ tail) = some (value, rest ++ tail) → reader input = some (value, rest)

/-- What comes before an end of a list also ends in it. -/
theorem exists_append_of_isSuffix {rest behind : List Char} (isSuffix : rest ++ tail <:+ behind) :
    ∃ front, behind = front ++ tail := by
  obtain ⟨front, rfl⟩ := isSuffix
  exact ⟨front ++ rest, by rw [List.append_assoc]⟩

theorem head?_ne_of_forall_ne_cons {input : List Char} {head : Char}
    (isOther : ∀ rest, input = head :: rest → False) : input.head? ≠ some head := by
  intro isHead
  obtain ⟨rest, isCons⟩ := List.head?_eq_some_iff.mp isHead
  exact isOther rest isCons

/-- A list does not end in one that is longer. -/
theorem not_append_isSuffix_of_cons {char : Char} {behind rest : List Char}
    (isTail : char :: behind = tail) : ¬rest ++ tail <:+ behind := by
  intro isSuffix
  have fits := isSuffix.length_le
  rw [← isTail, List.length_append, List.length_cons] at fits
  omega

theorem isSuffix_and_length_lt {char : Char} {input behind rest : List Char}
    (isFront : char :: behind <:+ input) (isSuffix : rest <:+ behind) :
    rest <:+ input ∧ rest.length < input.length :=
  ⟨isSuffix.trans ((List.suffix_cons char behind).trans isFront),
    isSuffix.length_le.trans_lt isFront.length_le⟩

/-- A reader that takes a character does not stop in front of its whole input. -/
theorem ne_some_of_consumes {reader : List Char → Option (α × List Char)} {value : α}
    {rest : List Char} (isNone : reader [] = none)
    (consumes : ∀ char input value rest,
      reader (char :: input) = some (value, rest) → rest <:+ input) :
    reader tail ≠ some (value, rest ++ tail) := by
  intro read
  cases isTail : tail with
  | nil =>
      rw [isTail, isNone] at read
      cases read
  | cons char behind =>
      rw [isTail] at read
      have fits := (consumes char behind value _ read).length_le
      rw [List.length_append, List.length_cons] at fits
      omega

theorem IsLocal.congr {first second : List Char → Option (α × List Char)}
    (isLocal : IsLocal tail first) (same : ∀ input, second input = first input) :
    IsLocal tail second := by
  obtain rfl : second = first := funext same
  exact isLocal

theorem isLocal_none : IsLocal tail fun _ => (none : Option (α × List Char)) :=
  ⟨nofun, nofun⟩

/-- Nothing has to be read for a value that is known. -/
theorem isLocal_map (value : Option α) : IsLocal tail fun input => value.map (·, input) where
  isSuffix read := by
    obtain ⟨_, _, same⟩ := Option.map_eq_some_iff.mp read
    cases same
    exact List.suffix_rfl
  alone read := by
    obtain ⟨_, isValue, same⟩ := Option.map_eq_some_iff.mp read
    rw [Prod.mk.injEq, List.append_cancel_right_eq] at same
    rw [isValue, same.1, same.2]
    rfl

theorem isLocal_some (value : α) : IsLocal tail fun input => some (value, input) :=
  isLocal_map (some value)

theorem IsLocal.bind {first : List Char → Option (α × List Char)}
    {next : α → List Char → Option (β × List Char)} (firstLocal : IsLocal tail first)
    (nextLocal : ∀ value, IsLocal tail (next value)) :
    IsLocal tail fun input => (first input).bind fun read => next read.1 read.2 where
  isSuffix read := by
    obtain ⟨⟨value, behind⟩, readFirst, readNext⟩ := Option.bind_eq_some_iff.mp read
    exact ((nextLocal value).isSuffix readNext).trans (firstLocal.isSuffix readFirst)
  alone read := by
    obtain ⟨⟨value, behind⟩, readFirst, readNext⟩ := Option.bind_eq_some_iff.mp read
    obtain ⟨front, rfl⟩ := exists_append_of_isSuffix ((nextLocal value).isSuffix readNext)
    rw [firstLocal.alone readFirst]
    exact (nextLocal value).alone readNext

theorem IsLocal.ofSome {next : α → List Char → Option (β × List Char)} (value : Option α)
    (nextLocal : ∀ value, IsLocal tail (next value)) :
    IsLocal tail fun input => value.bind fun value => next value input := by
  cases value with
  | none => exact isLocal_none
  | some value => exact nextLocal value

/-- The value that is read may be changed, or refused. -/
theorem IsLocal.filterMap {reader : List Char → Option (α × List Char)}
    (isLocal : IsLocal tail reader) (change : α → Option β) :
    IsLocal tail fun input => (reader input).bind fun read => (change read.1).map (·, read.2) :=
  isLocal.bind fun value => isLocal_map (change value)

theorem IsLocal.map {reader : List Char → Option (α × List Char)}
    (isLocal : IsLocal tail reader) (change : α → β) :
    IsLocal tail fun input => (reader input).map fun read => (change read.1, read.2) :=
  (isLocal.filterMap (some ∘ change)).congr fun input => by cases reader input <;> rfl

/-- A reader that needs a character is local if it is so behind every character. -/
theorem IsLocal.ofCons {reader : List Char → Option (α × List Char)} (isNone : reader [] = none)
    (behind : ∀ char, IsLocal tail fun rest => reader (char :: rest)) : IsLocal tail reader where
  isSuffix {input _ _} read := by
    cases input with
    | nil =>
        rw [isNone] at read
        cases read
    | cons char input => exact ((behind char).isSuffix read).trans (List.suffix_cons char input)
  alone {input _ _} read := by
    cases input with
    | cons char input => exact (behind char).alone read
    | nil =>
        exact absurd read (ne_some_of_consumes isNone fun char _ _ _ => (behind char).isSuffix)

theorem isLocal_head : IsLocal tail fun input => input.head?.map (·, input.tail) :=
  .ofCons rfl isLocal_some

/-- A reader is local if it is so behind a certain character and in front of every other one. -/
theorem IsLocal.ofHead (head : Char) {first second : List Char → Option (α × List Char)}
    (firstLocal : IsLocal tail first) (secondLocal : IsLocal tail second) :
    IsLocal tail fun input =>
      if input.head? = some head then first input.tail else second input where
  isSuffix {input _ _} read := by
    split at read
    next => exact (firstLocal.isSuffix read).trans (List.tail_suffix input)
    next => exact secondLocal.isSuffix read
  alone {input _ rest} read := by
    cases input with
    | cons char input =>
        by_cases isHead : char = head
        · rw [List.cons_append, List.head?_cons, if_pos (congrArg some isHead)] at read
          rw [List.head?_cons, if_pos (congrArg some isHead)]
          exact firstLocal.alone read
        · have isOther : some char ≠ some head := fun same => isHead (Option.some.inj same)
          rw [List.cons_append, List.head?_cons, if_neg isOther] at read
          rw [List.head?_cons, if_neg isOther]
          exact secondLocal.alone read
    | nil =>
        rw [List.nil_append] at read
        split at read
        next isHead =>
          obtain ⟨behind, isTail⟩ := List.head?_eq_some_iff.mp isHead
          have isSuffix := firstLocal.isSuffix read
          rw [isTail, List.tail_cons, ← isTail] at isSuffix
          exact absurd isSuffix (not_append_isSuffix_of_cons isTail.symm)
        next => exact secondLocal.alone read

/-! ## Skipping -/

theorem skipIgnored_isSuffix (inComment : Bool) (input : List Char) :
    skipIgnored inComment input <:+ input := by
  fun_induction skipIgnored inComment input with
  | case1 => exact List.suffix_rfl
  | case2 char rest ih => exact ih.trans (List.suffix_cons char rest)
  | case3 _ char rest _ _ ih => exact ih.trans (List.suffix_cons char rest)
  | case4 _ char rest _ _ _ ih => exact ih.trans (List.suffix_cons char rest)
  | case5 => exact List.suffix_rfl

theorem skipIgnored_append (inComment : Bool) (input : List Char) :
    skipIgnored inComment (input ++ tail) = skipIgnored inComment input ++ tail ∨
      skipIgnored inComment input = [] ∧ skipIgnored inComment (input ++ tail) <:+ tail := by
  induction input generalizing inComment with
  | nil => exact .inr ⟨rfl, skipIgnored_isSuffix inComment tail⟩
  | cons char input ih =>
      rw [List.cons_append, skipIgnored, skipIgnored]
      split
      next => exact ih _
      next =>
        split
        next => exact ih _
        next =>
          split
          next => exact ih _
          next => exact .inl rfl

variable (flags : Flags)

theorem skip_isSuffix (input : List Char) : flags.skip input <:+ input := by
  rw [Flags.skip]
  split
  next => exact skipIgnored_isSuffix false input
  next => exact List.suffix_rfl

/-- Where something is left, skipping does not depend on what follows; else it goes on there. -/
theorem skip_append (input tail : List Char) :
    flags.skip (input ++ tail) = flags.skip input ++ tail ∨
      flags.skip input = [] ∧ flags.skip (input ++ tail) <:+ tail := by
  rw [Flags.skip, Flags.skip]
  split
  next => exact skipIgnored_append false input
  next => exact .inl rfl

theorem skip_alone {input front : List Char}
    (skipped : flags.skip (input ++ tail) = front ++ tail) : flags.skip input = front := by
  rcases skip_append flags input tail with same | ⟨isEmpty, isSuffix⟩
  · exact List.append_cancel_right (same.symm.trans skipped)
  · rw [skipped] at isSuffix
    have fits := isSuffix.length_le
    rw [List.length_append] at fits
    rw [isEmpty, List.length_eq_zero_iff.mp (show front.length = 0 by omega)]

/-- A character that what follows does not have is not found there. -/
theorem skip_head_alone {input rest : List Char} {head : Char} (notInTail : head ∉ tail)
    (skipped : flags.skip (input ++ tail) = head :: rest) :
    ∃ front, flags.skip input = head :: front := by
  rcases skip_append flags input tail with same | ⟨_, inTail⟩
  · rw [same] at skipped
    cases isFront : flags.skip input with
    | nil =>
        rw [isFront, List.nil_append] at skipped
        exact absurd (skipped ▸ List.mem_cons_self) notInTail
    | cons first front =>
        rw [isFront] at skipped
        exact ⟨front, congrArg (· :: front) (List.cons.inj skipped).1⟩
  · rw [skipped] at inTail
    exact absurd (inTail.subset List.mem_cons_self) notInTail

theorem IsLocal.skip {reader : List Char → Option (α × List Char)}
    (isLocal : IsLocal tail reader) : IsLocal tail fun input => reader (flags.skip input) where
  isSuffix read := (isLocal.isSuffix read).trans (skip_isSuffix flags _)
  alone read := by
    obtain ⟨front, isFront⟩ := exists_append_of_isSuffix (isLocal.isSuffix read)
    rw [isFront] at read
    rw [skip_alone flags isFront]
    exact isLocal.alone read

/-! ## Escapes -/

theorem isLocal_bracedText (fuel : Nat) : IsLocal tail (bracedText flags fuel) := by
  induction fuel with
  | zero => exact isLocal_none
  | succ fuel ih =>
      have more : IsLocal tail _ := isLocal_head.bind fun char => ih.map (char :: ·)
      refine ((IsLocal.ofHead '\x7d' (isLocal_some []) more).skip flags).congr fun input => ?_
      rw [bracedText]
      split
      next isEmpty =>
        rw [isEmpty]
        rfl
      next isBrace =>
        rw [isBrace]
        rfl
      next char _ isOther isCons =>
        rw [isCons, List.head?_cons, if_neg fun isHead => isOther (Option.some.inj isHead)]
        rfl

/-- With a step for every character more steps read the same. -/
theorem bracedText_of_enough {fuel needed : Nat} {input : List Char}
    {result : List Char × List Char} (read : bracedText flags fuel input = some result)
    (enough : input.length < needed) : bracedText flags needed input = some result := by
  induction fuel generalizing needed input result with
  | zero => cases read
  | succ fuel ih =>
      obtain ⟨needed, rfl⟩ := Nat.exists_eq_succ_of_ne_zero (Nat.ne_zero_of_lt enough)
      have shorter := (skip_isSuffix flags input).length_le
      rw [bracedText] at read ⊢
      split at read
      next => cases read
      next => exact read
      next char behind _ isBehind =>
        obtain ⟨_, readBehind, same⟩ := Option.map_eq_some_iff.mp read
        rw [isBehind, List.length_cons] at shorter
        rw [ih readBehind (by omega)]
        exact congrArg some same

theorem isLocal_braced :
    IsLocal tail fun input => bracedText flags (input.length + 1) input where
  isSuffix read := (isLocal_bracedText flags _ : IsLocal [] _).isSuffix read
  alone read :=
    bracedText_of_enough flags ((isLocal_bracedText flags _).alone read) (Nat.lt_succ_self _)

theorem isLocal_fixedDigits (count : Nat) : IsLocal tail (fixedDigits flags count) := by
  induction count with
  | zero => exact isLocal_some []
  | succ count ih =>
      refine .ofCons rfl fun char => ?_
      cases isDigit : (Text.hexDigit? char).isNone with
      | true => exact isLocal_none.congr fun rest => by simp [fixedDigits, isDigit]
      | false =>
          by_cases isLast : count = 0
          · exact (ih.map (char :: ·)).congr fun rest => by simp [fixedDigits, isDigit, isLast]
          · exact ((ih.skip flags).map (char :: ·)).congr fun rest => by
              simp [fixedDigits, isDigit, isLast]

theorem isLocal_numbered (digits : Nat) : IsLocal tail (numbered flags digits) := by
  have braced := (isLocal_braced flags : IsLocal tail _).bind fun text =>
    .ofSome (guard (!text.isEmpty && text.all fun char => (Text.hexDigit? char).isSome)) fun _ =>
      .ofSome (charOf? (Text.hexValue text)) fun char => isLocal_some (Escape.char char)
  have fixed := (isLocal_fixedDigits flags digits : IsLocal tail _).bind fun text =>
    .ofSome (charOf? (Text.hexValue text)) fun char =>
      isLocal_some (if digits = 2 then Escape.byte char else Escape.char char)
  refine ((IsLocal.ofHead '\x7b' braced fixed).skip flags).congr fun input => ?_
  rw [numbered]
  split
  next rest isBrace =>
    rw [isBrace]
    rfl
  next isOther =>
    rw [if_neg (head?_ne_of_forall_ne_cons isOther)]
    rfl

theorem isLocal_propertySet (negated : Bool) : IsLocal tail (propertySet flags negated) := by
  have named := (IsLocal.ofHead '\x7b'
    ((isLocal_braced flags : IsLocal tail _).filterMap Property.described?)
    (isLocal_head.filterMap fun char => Property.named? [char])).skip flags
  refine (IsLocal.ofSome (guard flags.unicode) fun _ => named.bind fun named =>
    .ofSome (negatable flags negated (flags.fold named)) fun allowed =>
      isLocal_some (Escape.set allowed)).congr fun input => ?_
  rw [propertySet]
  congr 1
  funext _
  split
  next isEmpty =>
    rw [isEmpty]
    rfl
  next isBrace =>
    rw [isBrace]
    rfl
  next char _ isOther isCons =>
    rw [isCons, List.head?_cons, if_neg fun isHead => isOther (Option.some.inj isHead)]
    rfl

/-! ### Conditions on words -/

theorem boundaryName_isSuffix (fuel : Nat) (input : List Char) :
    (boundaryName flags fuel input).2 <:+ input := by
  induction fuel generalizing input with
  | zero => exact List.suffix_rfl
  | succ fuel ih =>
      cases input with
      | nil => exact List.suffix_rfl
      | cons char input =>
          rw [boundaryName]
          split
          next =>
            exact (ih _).trans ((skip_isSuffix flags input).trans (List.suffix_cons char input))
          next => exact List.suffix_rfl

theorem boundaryName_alone {fuel needed : Nat} {input name rest : List Char} {char : Char}
    (isEnd : isBoundaryNameChar char = false)
    (read : boundaryName flags fuel (input ++ tail) = (name, char :: rest ++ tail))
    (enough : input.length ≤ needed) :
    boundaryName flags needed input = (name, char :: rest) := by
  induction fuel generalizing needed input name with
  | zero =>
      obtain ⟨rfl, same⟩ := Prod.mk.inj read
      rw [List.append_cancel_right same]
      cases needed with
      | zero => rfl
      | succ needed => simp [boundaryName, isEnd]
  | succ fuel ih =>
      cases input with
      | nil =>
          have fits := (boundaryName_isSuffix flags (fuel + 1) ([] ++ tail)).length_le
          rw [read, List.nil_append, List.length_append, List.length_cons] at fits
          omega
      | cons first input =>
          rw [List.length_cons] at enough
          obtain ⟨needed, rfl⟩ := Nat.exists_eq_succ_of_ne_zero (Nat.ne_zero_of_lt enough)
          rw [List.cons_append, boundaryName] at read
          rw [boundaryName]
          split
          next isName =>
            rw [if_pos isName] at read
            have isSuffix := boundaryName_isSuffix flags fuel (flags.skip (input ++ tail))
            cases named : boundaryName flags fuel (flags.skip (input ++ tail)) with
            | mk more behind =>
                rw [named] at read isSuffix
                obtain ⟨rfl, rfl⟩ := Prod.mk.inj read
                obtain ⟨front, isFront⟩ := exists_append_of_isSuffix isSuffix
                have shorter := (skip_isSuffix flags input).length_le
                rw [isFront] at named
                rw [skip_alone flags isFront] at shorter ⊢
                rw [ih named (by omega)]
          next isName =>
            rw [if_neg isName] at read
            obtain ⟨rfl, same⟩ := Prod.mk.inj read
            rw [List.append_cancel_right (show first :: input ++ tail = _ from same)]

/-- A brace behind a condition has nothing behind it that counts. -/
def Dangling (flags : Flags) (input : List Char) : Prop :=
  ∃ behind, input = '\x7b' :: behind ∧ flags.skip behind = []

/-- A condition on words is read without its braces, or up to the closing one. -/
theorem boundary_eq_some {input rest : List Char} {value : Escape}
    (read : boundary flags input = some (value, rest)) :
    (rest = input ∧ value = .look (.wordBoundary flags.unicode)) ∨
      ∃ behind, input = '\x7b' :: behind ∧ '\x7d' :: rest <:+ flags.skip behind := by
  unfold boundary at read
  split at read
  next behind =>
    split at read
    next => cases read
    next first last isBehind =>
      split at read
      next =>
        split at read
        next name _ isLast =>
          obtain ⟨_, _, same⟩ := Option.map_eq_some_iff.mp read
          cases same
          refine .inr ⟨behind, rfl, ?_⟩
          have isSuffix := boundaryName_isSuffix flags (last.length + 1) (first :: last)
          rwa [isLast, ← isBehind] at isSuffix
        next => cases read
      next =>
        cases read
        exact .inl ⟨rfl, rfl⟩
  next =>
    cases read
    exact .inl ⟨rfl, rfl⟩

theorem boundary_isSuffix {input rest : List Char} {value : Escape}
    (read : boundary flags input = some (value, rest)) : rest <:+ input := by
  rcases boundary_eq_some flags read with ⟨rfl, _⟩ | ⟨behind, rfl, isSuffix⟩
  · exact List.suffix_rfl
  · exact (List.suffix_cons _ _).trans
      (isSuffix.trans ((skip_isSuffix flags behind).trans (List.suffix_cons _ behind)))

/-- Nothing that counts behind the brace leaves it to a repetition. -/
theorem dangling_of_boundary {input rest : List Char} {value : Escape}
    (isEmpty : flags.skip input = [])
    (read : boundary flags ('\x7b' :: input ++ tail) = some (value, rest ++ tail)) :
    (∃ condition, value = .look condition) ∧ Dangling flags rest := by
  rcases boundary_eq_some flags read with ⟨isRest, rfl⟩ | ⟨behind, isInput, isSuffix⟩
  · exact ⟨⟨_, rfl⟩, input, List.append_cancel_right isRest, isEmpty⟩
  · obtain rfl : input ++ tail = behind := (List.cons.inj isInput).2
    have inTail : flags.skip (input ++ tail) <:+ tail := by
      rcases skip_append flags input tail with same | ⟨_, inTail⟩
      · rw [same, isEmpty]
        exact List.suffix_rfl
      · exact inTail
    have fits := (isSuffix.trans inTail).length_le
    rw [List.length_cons, List.length_append] at fits
    omega

theorem boundary_brace_alone {input rest last : List Char} {value : Escape} {first : Char}
    (isBehind : flags.skip input = first :: last)
    (read : boundary flags ('\x7b' :: input ++ tail) = some (value, rest ++ tail)) :
    boundary flags ('\x7b' :: input) = some (value, rest) := by
  have same : flags.skip (input ++ tail) = first :: (last ++ tail) := by
    rcases skip_append flags input tail with same | ⟨isEmpty, _⟩
    · rw [same, isBehind, List.cons_append]
    · rw [isEmpty] at isBehind
      cases isBehind
  simp only [List.cons_append, boundary, same, isBehind] at read ⊢
  split
  next isName =>
    rw [if_pos isName] at read
    split at read
    next name behind isLast =>
      obtain ⟨_, found, same⟩ := Option.map_eq_some_iff.mp read
      obtain ⟨rfl, rfl⟩ := Prod.mk.inj same
      have isLast : boundaryName flags _ (first :: last ++ tail) =
          (name, '\x7d' :: rest ++ tail) :=
        isLast
      rw [← List.length_cons, boundaryName_alone flags rfl isLast le_rfl]
      exact congrArg (Option.map fun x => (Escape.look x.2, rest)) found
    next => cases read
  next isName =>
    rw [if_neg isName] at read
    obtain ⟨rfl, same⟩ := Prod.mk.inj (Option.some.inj read)
    rw [List.append_cancel_right (show '\x7b' :: input ++ tail = _ from same)]

/-- A condition on words depends on what follows only where a brace stands at the end. -/
theorem boundary_alone {input rest : List Char} {value : Escape}
    (read : boundary flags (input ++ tail) = some (value, rest ++ tail)) :
    boundary flags input = some (value, rest) ∨
      (∃ condition, value = .look condition) ∧ Dangling flags rest := by
  cases input with
  | nil =>
      left
      rcases boundary_eq_some flags read with ⟨isRest, rfl⟩ | ⟨behind, isTail, isSuffix⟩
      · rw [List.append_cancel_right isRest]
        rfl
      · exact absurd ((List.suffix_cons _ _).trans (isSuffix.trans (skip_isSuffix flags behind)))
          (not_append_isSuffix_of_cons isTail.symm)
  | cons char input =>
      by_cases isBrace : char = '\x7b'
      · obtain rfl := isBrace
        cases isBehind : flags.skip input with
        | nil => exact .inr (dangling_of_boundary flags isBehind read)
        | cons first last => exact .inl (boundary_brace_alone flags isBehind read)
      · left
        rw [List.cons_append, boundary] at read
        rw [boundary]
        · obtain ⟨rfl, same⟩ := Prod.mk.inj (Option.some.inj read)
          rw [List.append_cancel_right (show char :: input ++ tail = _ from same)]
        · exact fun _ same => isBrace (List.cons.inj same).1
        · exact fun _ same => isBrace (List.cons.inj same).1

/-! ### What stands behind a backslash -/

/-- The letter of an escape decides how the rest is read; only the condition on words is not
local. -/
theorem isLocal_escape {char : Char} (isOther : char ≠ 'b') :
    IsLocal tail fun rest => escape flags (char :: rest) := by
  by_cases isX : char = 'x'
  · exact (isLocal_numbered flags 2).congr fun rest => by rw [isX, escape]
  by_cases isSmallU : char = 'u'
  · exact (isLocal_numbered flags 4).congr fun rest => by rw [isSmallU, escape]
  by_cases isLargeU : char = 'U'
  · exact (isLocal_numbered flags 8).congr fun rest => by rw [isLargeU, escape]
  by_cases isSmallP : char = 'p'
  · exact (isLocal_propertySet flags false).congr fun rest => by rw [isSmallP, escape]
  by_cases isLargeP : char = 'P'
  · exact (isLocal_propertySet flags true).congr fun rest => by rw [isLargeP, escape]
  refine (isLocal_map ((escape flags [char]).map (·.1))).congr fun rest => ?_
  unfold escape
  split <;> simp_all <;> rfl

theorem escape_consumes (char : Char) (input : List Char) (value : Escape) (rest : List Char)
    (read : escape flags (char :: input) = some (value, rest)) : rest <:+ input := by
  by_cases isBoundary : char = 'b'
  · rw [isBoundary, escape] at read
    exact boundary_isSuffix flags read
  · exact (isLocal_escape flags isBoundary : IsLocal [] _).isSuffix read

theorem escape_isSuffix {input rest : List Char} {value : Escape}
    (read : escape flags input = some (value, rest)) : rest <:+ input := by
  cases input with
  | nil => cases read
  | cons char input =>
      exact (escape_consumes flags char input value rest read).trans (List.suffix_cons char input)

/-- An escape depends on what follows only if it is a condition in front of a brace that stands
at the end. -/
theorem escape_alone {input rest : List Char} {value : Escape}
    (read : escape flags (input ++ tail) = some (value, rest ++ tail)) :
    escape flags input = some (value, rest) ∨
      (∃ condition, value = .look condition) ∧ Dangling flags rest := by
  cases input with
  | nil => exact absurd read (ne_some_of_consumes rfl (escape_consumes flags))
  | cons char input =>
      by_cases isBoundary : char = 'b'
      · rw [isBoundary, List.cons_append, escape] at read
        rw [isBoundary, escape]
        exact boundary_alone flags read
      · exact .inl ((isLocal_escape flags isBoundary).alone read)

end Tenancy.Regex
