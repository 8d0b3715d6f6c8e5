import Tenancy.Proofs.Regex.Bracket

/-!
# Parts of a pattern do not depend on what follows

Every step of reading a pattern takes one part of it.  It reads the same without an end of the
pattern that it does not come to, up to a brace that stands in front of that end.
-/

namespace Tenancy.Regex

variable {tail : List Char}

/-! ## Names and flags of groups -/

theorem span_alone {passes : Char → Bool} {input rest : List Char}
    (dropped : (input ++ tail).dropWhile passes = rest ++ tail) :
    input.dropWhile passes = rest ∧
      (input ++ tail).takeWhile passes = input.takeWhile passes := by
  induction input with
  | nil =>
      have parts := tail.takeWhile_append_dropWhile (p := passes)
      rw [List.nil_append] at dropped ⊢
      rw [dropped, ← List.append_assoc] at parts
      have isEmpty := List.append_eq_nil_iff.mp (List.append_left_eq_self.mp parts)
      exact ⟨isEmpty.2.symm, isEmpty.1⟩
  | cons char input ih =>
      cases passed : passes char with
      | true =>
          rw [List.cons_append, List.dropWhile_cons_of_pos passed] at dropped
          rw [List.cons_append, List.dropWhile_cons_of_pos passed,
            List.takeWhile_cons_of_pos passed, List.takeWhile_cons_of_pos passed]
          exact ⟨(ih dropped).1, congrArg (char :: ·) (ih dropped).2⟩
      | false =>
          have fails : ¬passes char = true := by simp [passed]
          rw [List.cons_append, List.dropWhile_cons_of_neg fails] at dropped
          rw [List.cons_append, List.dropWhile_cons_of_neg fails,
            List.takeWhile_cons_of_neg fails, List.takeWhile_cons_of_neg fails]
          exact ⟨List.append_cancel_right (show char :: input ++ tail = _ from dropped), rfl⟩

/-- A name is read up to the bracket behind it. -/
theorem groupName_eq_some_iff {input name rest : List Char} :
    groupName input = some (name, rest) ↔
      input.takeWhile (· ≠ '>') = name ∧ input.dropWhile (· ≠ '>') = '>' :: rest ∧
        ∃ first others, name = first :: others ∧
          (isNameChar true first && others.all (isNameChar false)) = true := by
  unfold groupName
  dsimp only
  constructor
  · intro read
    split at read
    next first others behind isName isBehind =>
      split at read
      next isValid =>
        cases read
        exact ⟨rfl, isBehind, first, others, isName, isValid⟩
      next => cases read
    next => cases read
  · rintro ⟨isName, isBehind, first, others, rfl, isValid⟩
    rw [isName, isBehind]
    exact if_pos isValid

theorem isLocal_groupName : IsLocal tail groupName where
  isSuffix {input _ _} read := by
    have isBehind := (groupName_eq_some_iff.mp read).2.1
    have dropped := input.dropWhile_suffix (p := (· ≠ '>'))
    rw [isBehind] at dropped
    exact (List.suffix_cons _ _).trans dropped
  alone {_ _ rest} read := by
    obtain ⟨isName, isBehind, isValid⟩ := groupName_eq_some_iff.mp read
    have parts := span_alone (show _ = '>' :: rest ++ _ from isBehind)
    exact groupName_eq_some_iff.mpr ⟨parts.2.symm.trans isName, parts.1, isValid⟩

variable (state : State)

theorem isLocal_openNamed : IsLocal tail state.openNamed := by
  refine (isLocal_groupName.filterMap fun name => if state.names.contains name then none
    else some ({ state with names := name :: state.names }.openGroup state.flags)).congr
      fun input => ?_
  unfold State.openNamed
  congr 1
  funext read
  obtain ⟨name, rest⟩ := read
  dsimp only
  split <;> rfl

theorem flagsRead_isSuffix {flags changed : Flags} {negated : Bool} {seen input rest : List Char}
    (read : flags.read negated seen input = some (changed, rest)) : rest <:+ input := by
  induction input generalizing flags negated seen with
  | nil => cases read
  | cons char input ih =>
      rw [Flags.read] at read
      split at read
      next =>
        split at read
        next => cases read
        next =>
          cases read
          exact List.suffix_rfl
      next =>
        refine List.IsSuffix.trans ?_ (List.suffix_cons char input)
        split at read
        next => cases read
        next =>
          split at read
          next => exact ih read
          next =>
            obtain ⟨_, _, read⟩ := Option.bind_eq_some_iff.mp read
            exact ih read

theorem flagsRead_alone {flags changed : Flags} {negated : Bool} {seen input rest : List Char}
    {char : Char}
    (read : flags.read negated seen (input ++ tail) = some (changed, char :: rest ++ tail)) :
    flags.read negated seen input = some (changed, char :: rest) := by
  induction input generalizing flags negated seen with
  | nil =>
      have fits := (flagsRead_isSuffix read).length_le
      rw [List.nil_append, List.length_append, List.length_cons] at fits
      omega
  | cons first input ih =>
      rw [List.cons_append, Flags.read] at read
      rw [Flags.read]
      split
      next isEnd =>
        rw [if_pos isEnd] at read
        split
        next isDash =>
          rw [if_pos isDash] at read
          cases read
        next isDash =>
          rw [if_neg isDash] at read
          obtain ⟨rfl, same⟩ := Prod.mk.inj (Option.some.inj read)
          rw [List.append_cancel_right (show first :: input ++ tail = _ from same)]
      next isEnd =>
        rw [if_neg isEnd] at read
        split
        next isSeen =>
          rw [if_pos isSeen] at read
          cases read
        next isSeen =>
          rw [if_neg isSeen] at read
          split
          next isDash =>
            rw [if_pos isDash] at read
            exact ih read
          next isDash =>
            rw [if_neg isDash] at read
            obtain ⟨_, isSet, read⟩ := Option.bind_eq_some_iff.mp read
            rw [isSet]
            exact ih read

/-! ## Groups -/

/-- Set flags, or open a group with flags, behind the mark of a group. -/
def readFlags (input : List Char) : Option (State × List Char) :=
  match state.flags.read false [] input with
  | some (flags, ':' :: rest) => some (state.openGroup flags, rest)
  | some (flags, ')' :: behind) =>
      if input.head? == some ')' then none
      else some ({ state with flags := flags }.push .flags, behind)
  | _ => none

theorem isLocal_readFlags : IsLocal tail (readFlags state) where
  isSuffix {input _ rest} read := by
    unfold readFlags at read
    split at read
    next flags behind isFlags =>
      cases read
      exact (List.suffix_cons _ _).trans (flagsRead_isSuffix isFlags)
    next flags behind isFlags =>
      split at read
      next => cases read
      next =>
        cases read
        exact (List.suffix_cons _ _).trans (flagsRead_isSuffix isFlags)
    next => cases read
  alone {input _ rest} read := by
    unfold readFlags at read ⊢
    split at read
    next flags behind isFlags =>
      obtain ⟨rfl, rfl⟩ := Prod.mk.inj (Option.some.inj read)
      have isFlags : _ = some (flags, ':' :: rest ++ tail) := isFlags
      rw [flagsRead_alone isFlags]
      rfl
    next flags behind isFlags =>
      split at read
      next => cases read
      next notClose =>
        obtain ⟨rfl, rfl⟩ := Prod.mk.inj (Option.some.inj read)
        have isFlags : _ = some (flags, ')' :: rest ++ tail) := isFlags
        have isAlone := flagsRead_alone isFlags
        rw [isAlone]
        cases input with
        | nil => cases isAlone
        | cons => exact if_neg notClose
    next => cases read

/-- Behind the mark of a group stands a name or flags, or a condition that no pattern may have. -/
theorem isLocal_marked : IsLocal tail fun rest => state.openParenthesis ('?' :: rest) := by
  have named : IsLocal tail _ := isLocal_openNamed state
  have behindAngle := IsLocal.ofHead '=' isLocal_none (IsLocal.ofHead '!' isLocal_none named)
  have behindLetter := IsLocal.ofHead '<' named isLocal_none
  refine (IsLocal.ofHead '=' isLocal_none (.ofHead '!' isLocal_none (.ofHead '<' behindAngle
    (.ofHead 'P' behindLetter (isLocal_readFlags state))))).congr fun rest => ?_
  unfold State.openParenthesis
  split
  next same => cases same; rfl
  next same => cases same; rfl
  next same => cases same; rfl
  next same => cases same; rfl
  next same => cases same; rfl
  next notEqual notNot same =>
    cases same
    simp [head?_ne_of_forall_ne_cons notEqual, head?_ne_of_forall_ne_cons notNot]
  next notEqual notNot _ _ notP notAngle same =>
    obtain rfl := (List.cons.inj same).2
    rw [if_neg (head?_ne_of_forall_ne_cons notEqual), if_neg (head?_ne_of_forall_ne_cons notNot),
      if_neg (head?_ne_of_forall_ne_cons notAngle)]
    by_cases isP : rest.head? = some 'P'
    · obtain ⟨more, rfl⟩ := List.head?_eq_some_iff.mp isP
      have notNamed := head?_ne_of_forall_ne_cons fun rest same =>
        notP rest (congrArg ('P' :: ·) same)
      rw [if_pos isP, List.tail_cons, if_neg notNamed]
      rfl
    · rw [if_neg isP]
      rfl
  next isOther => exact absurd rfl (isOther rest)

theorem isLocal_openParenthesis : IsLocal tail state.openParenthesis := by
  refine (IsLocal.ofHead '?' (isLocal_marked state)
    (isLocal_some (state.openGroup state.flags))).congr fun input => ?_
  split
  next isMark =>
    obtain ⟨rest, rfl⟩ := List.head?_eq_some_iff.mp isMark
    rfl
  next isOther =>
    cases input with
    | nil => rfl
    | cons char rest =>
        have notMark : char ≠ '?' := fun same => isOther (congrArg some same)
        simp [State.openParenthesis, notMark]

/-! ## Repetitions -/

theorem isLocal_skipLazy {α : Type} (value : Option α) :
    IsLocal tail fun input => value.map (·, skipLazy input) := by
  refine (IsLocal.ofHead '?' (isLocal_map value) (isLocal_map value)).congr fun input => ?_
  split
  next isMark =>
    obtain ⟨rest, rfl⟩ := List.head?_eq_some_iff.mp isMark
    rfl
  next isOther =>
    unfold skipLazy
    split
    next rest => exact absurd rfl isOther
    next => rfl

variable (flags : Flags)

theorem count_eq_some_iff {input rest : List Char} {value : Nat} :
    count flags input = some (value, rest) ↔
      ∃ behind digits, input.dropWhile Text.isBlank = behind ∧
        behind.takeWhile Char.isDigit = digits ∧
        flags.skip ((flags.skip (behind.dropWhile Char.isDigit)).dropWhile Text.isBlank) = rest ∧
        Text.decimalValue digits 0 = value ∧
        (!digits.isEmpty && Width.fitsUnsigned 32 value) = true := by
  unfold count
  dsimp only
  constructor
  · intro read
    split at read
    next fits =>
      cases read
      exact ⟨_, _, rfl, rfl, rfl, rfl, fits⟩
    next => cases read
  · rintro ⟨behind, digits, rfl, rfl, rfl, rfl, fits⟩
    exact if_pos fits

theorem isLocal_count : IsLocal tail (count flags) where
  isSuffix {input _ _} read := by
    obtain ⟨behind, digits, rfl, rfl, rfl, rfl, fits⟩ := (count_eq_some_iff flags).mp read
    exact (skip_isSuffix flags _).trans ((List.dropWhile_suffix _).trans
      ((skip_isSuffix flags _).trans ((List.dropWhile_suffix _).trans (List.dropWhile_suffix _))))
  alone {input value rest} read := by
    obtain ⟨behind, digits, isBehind, isDigits, isRest, isValue, fits⟩ :=
      (count_eq_some_iff flags).mp read
    obtain ⟨fourth, isFourth⟩ := exists_append_of_isSuffix (isRest ▸ skip_isSuffix flags _)
    obtain ⟨third, isThird⟩ := exists_append_of_isSuffix
      (isFourth ▸ List.dropWhile_suffix Text.isBlank)
    obtain ⟨second, isSecond⟩ := exists_append_of_isSuffix (isThird ▸ skip_isSuffix flags _)
    obtain ⟨first, rfl⟩ := exists_append_of_isSuffix (isSecond ▸ List.dropWhile_suffix Char.isDigit)
    rw [isSecond] at isThird
    rw [isSecond, isThird] at isFourth
    rw [isSecond, isThird, isFourth] at isRest
    have blanks := span_alone isBehind
    have number := span_alone isSecond
    refine (count_eq_some_iff flags).mpr
      ⟨first, digits, blanks.1, number.2.symm.trans isDigits, ?_, isValue, fits⟩
    rw [number.1, skip_alone flags isThird, (span_alone isFourth).1, skip_alone flags isRest]

/-- The upper limit of a repetition, behind its comma. -/
def upperLimit (least : Nat) (input : List Char) : Option ((Nat × Option Nat) × List Char) :=
  match input with
  | '\x7d' :: rest => some ((least, none), rest)
  | rest =>
      (count flags rest).bind fun
        | (most, '\x7d' :: rest) =>
            if least ≤ most then some ((least, some most), rest) else none
        | _ => none

theorem isLocal_upperLimit (least : Nat) : IsLocal tail (upperLimit flags least) := by
  have closed (most : Nat) := IsLocal.ofHead '\x7d'
    (isLocal_map (if least ≤ most then some (least, some most) else none) : IsLocal tail _)
    isLocal_none
  refine (IsLocal.ofHead '\x7d' (isLocal_some (least, none))
    ((isLocal_count flags).bind closed)).congr fun input => ?_
  unfold upperLimit
  split
  next => rfl
  next isOther =>
    rw [if_neg (head?_ne_of_forall_ne_cons isOther)]
    congr 1
    funext read
    obtain ⟨most, rest⟩ := read
    dsimp only
    split
    next rest isBrace =>
      obtain ⟨rfl, rfl⟩ := Prod.mk.inj isBrace
      split <;> rfl
    next notBrace =>
      rw [if_neg (head?_ne_of_forall_ne_cons fun rest same => notBrace most rest (same ▸ rfl))]

/-- The limits of a repetition, as a pair. -/
def limitsPair (input : List Char) : Option ((Nat × Option Nat) × List Char) :=
  (limits flags input).map fun (least, most, rest) => ((least, most), rest)

theorem isLocal_limitsPair : IsLocal tail (limitsPair flags) := by
  have behind (least : Nat) := IsLocal.ofHead '\x7d' (isLocal_some (least, some least))
    (IsLocal.ofHead ',' ((isLocal_upperLimit flags least : IsLocal tail _).skip flags) isLocal_none)
  refine (((isLocal_count flags).skip flags).bind behind).congr fun input => ?_
  unfold limitsPair limits
  rw [Option.bind_eq_bind, Option.map_bind]
  congr 1
  funext read
  obtain ⟨least, rest⟩ := read
  simp only [Function.comp]
  split
  next => rfl
  next rest =>
    change _ = upperLimit flags least (flags.skip rest)
    split
    next isBrace =>
      simp only [upperLimit, isBrace]
      rfl
    next =>
      simp only [upperLimit]
      rw [Option.map_bind]
      congr 1
      funext read
      obtain ⟨most, _ | ⟨char, rest⟩⟩ := read
      · rfl
      · by_cases isBrace : char = '\x7d'
        · obtain rfl := isBrace
          by_cases fits : least ≤ most <;> simp [fits]
        · simp [isBrace]
  next notBrace notComma =>
    rw [if_neg (head?_ne_of_forall_ne_cons notBrace), if_neg (head?_ne_of_forall_ne_cons notComma)]
    rfl

/-! ## Steps -/

/-- A repetition in braces, behind the opening one. -/
theorem isLocal_repetition :
    IsLocal tail fun rest => state.step ('\x7b' :: rest) := by
  refine ((isLocal_limitsPair state.flags).bind fun limits =>
    ((isLocal_skipLazy (state.repeatLast limits.1 limits.2)).skip state.flags)).congr
      fun rest => ?_
  rw [State.step, limitsPair]
  cases limits state.flags rest <;> rfl

section

variable (noBracket : ']' ∉ tail) (noDash : '-' ∉ tail)

include noBracket noDash

/-- Only a step at a backslash may depend on what follows. -/
theorem isLocal_step {char : Char} (notEscape : char ≠ '\\') :
    IsLocal tail fun rest => state.step (char :: rest) := by
  by_cases isOpen : char = '('
  · exact ((isLocal_openParenthesis state).skip state.flags).congr fun rest => by
      rw [isOpen, State.step]
  by_cases isBracket : char = '['
  · exact ((Bracket.isLocal_ofInput state.flags noBracket noDash).map fun set =>
      state.push (.regex (.one set) 1)).congr fun rest => by rw [isBracket, State.step]
  by_cases isMaybe : char = '?'
  · exact (isLocal_skipLazy (state.repeatLast 0 (some 1))).congr fun rest => by
      rw [isMaybe, State.step]
  by_cases isAny : char = '*'
  · exact (isLocal_skipLazy (state.repeatLast 0 none)).congr fun rest => by
      rw [isAny, State.step]
  by_cases isSome : char = '+'
  · exact (isLocal_skipLazy (state.repeatLast 1 none)).congr fun rest => by
      rw [isSome, State.step]
  by_cases isBrace : char = '\x7b'
  · exact isBrace ▸ isLocal_repetition state
  refine (isLocal_map ((state.step [char]).map (·.1))).congr fun rest => ?_
  unfold State.step
  split <;> simp_all <;> rfl

end

/-- What an escape makes of a state. -/
def ofEscape : Escape → Option State
  | .char char => some (state.pushLeaf (state.flags.literal char))
  | .byte char =>
      if state.flags.unicode || char.toNat < 0x80 then
        some (state.pushLeaf (state.flags.literal char))
      else none
  | .set set => some (state.pushLeaf (.one set))
  | .look condition => some (state.pushLeaf (.look condition))

theorem step_escape (input : List Char) :
    state.step ('\\' :: input) =
      (escape state.flags input).bind fun read =>
        (ofEscape state read.1).map (·, read.2) := by
  rw [State.step]
  congr 1
  funext read
  obtain ⟨value, rest⟩ := read
  cases value with
  | char | set | look => rfl
  | byte char =>
      simp only [ofEscape]
      split <;> rfl

theorem step_consumes (char : Char) (input : List Char) (next : State) (rest : List Char)
    (step : state.step (char :: input) = some (next, rest)) : rest <:+ input := by
  by_cases isEscape : char = '\\'
  · rw [isEscape, step_escape] at step
    obtain ⟨⟨value, behind⟩, readEscape, isNext⟩ := Option.bind_eq_some_iff.mp step
    obtain ⟨_, _, same⟩ := Option.map_eq_some_iff.mp isNext
    cases same
    exact escape_isSuffix state.flags readEscape
  · exact (isLocal_step state List.not_mem_nil List.not_mem_nil isEscape).isSuffix step

/-- A step depends on what follows only if it comes to a brace that stands at the end. -/
theorem step_alone (noBracket : ']' ∉ tail) (noDash : '-' ∉ tail) {next : State}
    {input rest : List Char} (step : state.step (input ++ tail) = some (next, rest ++ tail)) :
    state.step input = some (next, rest) ∨ Dangling next.flags rest := by
  cases input with
  | nil => exact absurd step (ne_some_of_consumes rfl (step_consumes state))
  | cons char input =>
      by_cases isEscape : char = '\\'
      · rw [isEscape, List.cons_append, step_escape] at step
        obtain ⟨⟨value, behind⟩, readEscape, isNext⟩ := Option.bind_eq_some_iff.mp step
        obtain ⟨_, isValue, same⟩ := Option.map_eq_some_iff.mp isNext
        cases same
        rcases escape_alone state.flags readEscape with readAlone | ⟨⟨condition, rfl⟩, dangling⟩
        · left
          rw [isEscape, step_escape, readAlone, Option.bind_some, isValue]
          rfl
        · cases isValue
          exact .inr dangling
      · exact .inl ((isLocal_step state noBracket noDash isEscape).alone step)

end Tenancy.Regex
