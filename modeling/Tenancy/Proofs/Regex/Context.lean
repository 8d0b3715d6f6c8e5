import Tenancy.Proofs.Regex.Parser

/-!
# Patterns inside of a group

A pattern that is put between the beginning and the end of a group is read there as it is read
alone, unless it comes to a parenthesis that closes this group.
-/

namespace Tenancy.Regex

/-! ## Groups around a state -/

/-- The state with more groups open around its own. -/
def State.under (state : State) (context : List Group) : State :=
  { state with outer := state.outer ++ context }

section Under

variable {state : State} {context : List Group}

theorem flags_under : (state.under context).flags = state.flags := rfl

theorem closeGroup_under (isOpen : state.outer ≠ []) :
    (state.under context).closeGroup = state.closeGroup.map (·.under context) := by
  obtain ⟨parent, outer, isOuter⟩ := List.exists_cons_of_ne_nil isOpen
  simp only [State.closeGroup, State.under, isOuter, List.cons_append]
  rfl

theorem repeatLast_under (least : Nat) (most : Option Nat) :
    (state.under context).repeatLast least most =
      (state.repeatLast least most).map (·.under context) := by
  obtain ⟨flags, ⟨before, branches, parts⟩, outer, names⟩ := state
  rcases parts with _ | ⟨_ | _, parts⟩ <;> rfl

/-- What is read from a state in a context, and the state without it. -/
def inContext (context : List Group) (read : Option (State × List Char)) :
    Option (State × List Char) :=
  read.map fun (next, rest) => (next.under context, rest)

theorem openNamed_under (input : List Char) :
    (state.under context).openNamed input = inContext context (state.openNamed input) := by
  unfold State.openNamed inContext
  rw [Option.map_bind]
  congr 1
  funext read
  obtain ⟨name, rest⟩ := read
  change (if state.names.contains name then _ else _) = Option.map _ (if _ then _ else _)
  split <;> rfl

theorem readFlags_under (input : List Char) :
    readFlags (state.under context) input = inContext context (readFlags state input) := by
  rw [readFlags, flags_under]
  split
  next isColon =>
    simp only [readFlags, isColon]
    rfl
  next isClose =>
    simp only [readFlags, isClose]
    split <;> rfl
  next =>
    simp only [readFlags]
    rfl

theorem openParenthesis_under (input : List Char) :
    (state.under context).openParenthesis input =
      inContext context (state.openParenthesis input) := by
  unfold State.openParenthesis
  split
  next => rfl
  next => rfl
  next => rfl
  next => rfl
  next => exact openNamed_under _
  next => exact openNamed_under _
  next rest _ _ _ _ _ _ =>
    exact readFlags_under rest
  next => rfl

theorem step_under {input : List Char} (notPopped : input.head? = some ')' → state.outer ≠ []) :
    (state.under context).step input = inContext context (state.step input) := by
  unfold State.step
  split
  next => rfl
  next => exact openParenthesis_under _
  next =>
    rw [closeGroup_under (notPopped rfl)]
    cases state.closeGroup <;> rfl
  next => rfl
  next rest =>
    change (Bracket.ofInput state.flags rest).map _ = _
    cases Bracket.ofInput state.flags rest <;> rfl
  next =>
    rw [repeatLast_under]
    cases state.repeatLast 0 (some 1) <;> rfl
  next =>
    rw [repeatLast_under]
    cases state.repeatLast 0 none <;> rfl
  next =>
    rw [repeatLast_under]
    cases state.repeatLast 1 none <;> rfl
  next rest =>
    change (limits state.flags rest).bind _ = _
    rcases limits state.flags rest with _ | ⟨least, most, behind⟩
    · rfl
    · simp only [Option.bind_some, repeatLast_under]
      cases state.repeatLast least most <;> rfl
  next rest =>
    change (escape state.flags rest).bind _ = _
    rcases escape state.flags rest with _ | ⟨char | byte | set | condition, behind⟩
    · rfl
    · rfl
    · rw [Option.bind_some]
      change (if state.flags.unicode || byte.toNat < 0x80 then _ else _) =
        inContext context (if _ then _ else _)
      split <;> rfl
    · rfl
    · rfl
  next =>
    change state.flags.dot.map _ = _
    cases state.flags.dot <;> rfl
  next => rfl
  next => rfl
  next => rfl

end Under

/-! ## Open groups -/

/-- The flags to return to at the ends of the open groups, the innermost one first. -/
def State.befores (state : State) : List Flags := (state.group :: state.outer).map (·.before)

variable {state next : State} {input rest : List Char}

theorem befores_of_closeGroup (closed : state.closeGroup = some next) :
    state.befores = state.group.before :: next.befores := by
  unfold State.closeGroup at closed
  split at closed
  next => cases closed
  next parent outer isOuter =>
    cases closed
    simp [State.befores, isOuter]

theorem befores_of_repeatLast {least : Nat} {most : Option Nat} {behind : List Char}
    (step : (state.repeatLast least most).map (·, behind) = some (next, rest)) :
    next.befores = state.befores := by
  obtain ⟨_, repeated, same⟩ := Option.map_eq_some_iff.mp step
  cases same
  unfold State.repeatLast at repeated
  split at repeated
  next =>
    cases repeated
    rfl
  next => cases repeated

theorem befores_of_openNamed (opened : state.openNamed input = some (next, rest)) :
    next.befores = state.flags :: state.befores := by
  obtain ⟨⟨name, behind⟩, _, opened⟩ := Option.bind_eq_some_iff.mp opened
  dsimp only at opened
  split at opened
  next => cases opened
  next =>
    cases opened
    rfl

theorem befores_of_readFlags (read : readFlags state input = some (next, rest)) :
    next.befores = state.befores ∨ next.befores = state.flags :: state.befores := by
  unfold readFlags at read
  split at read
  next =>
    cases read
    exact .inr rfl
  next =>
    split at read
    next => cases read
    next =>
      cases read
      exact .inl rfl
  next => cases read

theorem befores_of_openParenthesis (opened : state.openParenthesis input = some (next, rest)) :
    next.befores = state.befores ∨ next.befores = state.flags :: state.befores := by
  unfold State.openParenthesis at opened
  split at opened
  next => cases opened
  next => cases opened
  next => cases opened
  next => cases opened
  next => exact .inr (befores_of_openNamed opened)
  next => exact .inr (befores_of_openNamed opened)
  next => exact befores_of_readFlags opened
  next =>
    cases opened
    exact .inr rfl

/-- A step leaves the open groups, opens one, or closes the innermost one at a parenthesis. -/
theorem step_befores (step : state.step input = some (next, rest)) :
    (next.befores = state.befores ∨ next.befores = state.flags :: state.befores) ∨
      (∃ more, input = ')' :: more) ∧ ∃ flags, state.befores = flags :: next.befores := by
  unfold State.step at step
  split at step
  next => cases step
  next => exact .inl (befores_of_openParenthesis step)
  next more =>
    obtain ⟨closed, isClosed, same⟩ := Option.map_eq_some_iff.mp step
    cases same
    exact .inr ⟨⟨_, rfl⟩, _, befores_of_closeGroup isClosed⟩
  next =>
    cases step
    exact .inl (.inl rfl)
  next =>
    obtain ⟨_, _, same⟩ := Option.map_eq_some_iff.mp step
    cases same
    exact .inl (.inl rfl)
  next => exact .inl (.inl (befores_of_repeatLast step))
  next => exact .inl (.inl (befores_of_repeatLast step))
  next => exact .inl (.inl (befores_of_repeatLast step))
  next =>
    obtain ⟨⟨least, most, behind⟩, _, step⟩ := Option.bind_eq_some_iff.mp step
    exact .inl (.inl (befores_of_repeatLast step))
  next =>
    obtain ⟨⟨value, behind⟩, _, step⟩ := Option.bind_eq_some_iff.mp step
    cases value with
    | char | set | look =>
        cases step
        exact .inl (.inl rfl)
    | byte =>
        dsimp only at step
        split at step
        next =>
          cases step
          exact .inl (.inl rfl)
        next => cases step
  next =>
    obtain ⟨_, _, same⟩ := Option.map_eq_some_iff.mp step
    cases same
    exact .inl (.inl rfl)
  next =>
    cases step
    exact .inl (.inl rfl)
  next =>
    cases step
    exact .inl (.inl rfl)
  next =>
    cases step
    exact .inl (.inl rfl)

theorem befores_ne_nil (state : State) : state.befores ≠ [] := List.cons_ne_nil _ _

/-- The flags to return to at the end of the outermost group stay. -/
theorem step_getLast? (step : state.step input = some (next, rest)) :
    next.befores.getLast? = state.befores.getLast? := by
  rcases step_befores step with (same | opened) | ⟨_, flags, closed⟩
  · rw [same]
  · rw [opened, List.getLast?_cons_of_ne_nil (befores_ne_nil state)]
  · rw [closed, List.getLast?_cons_of_ne_nil (befores_ne_nil next)]

/-- Only a parenthesis closes a group. -/
theorem step_outer_ne_nil (step : state.step input = some (next, rest))
    (notClose : input.head? ≠ some ')') (isOpen : state.outer ≠ []) : next.outer ≠ [] := by
  have length_befores (state : State) : state.befores.length = state.outer.length + 1 := by
    simp [State.befores]
  have before := length_befores state
  have after := length_befores next
  have some := List.length_pos_iff.mpr isOpen
  rw [← List.length_pos_iff]
  rcases step_befores step with (same | opened) | ⟨⟨more, rfl⟩, _⟩
  · rw [same] at after
    omega
  · rw [opened, List.length_cons] at after
    omega
  · exact absurd rfl notClose

/-! ## Runs -/

/-- A run is over at the end of the pattern, or goes on behind a step. -/
theorem run_eq_some {fuel : Nat} {final : State} (runs : state.run fuel input = some final) :
    ∃ fewer, fuel = fewer + 1 ∧
      ((state.flags.skip input = [] ∧ final = state) ∨
        ∃ next rest, state.step (state.flags.skip input) = some (next, rest) ∧
          next.run fewer rest = some final) := by
  cases fuel with
  | zero => cases runs
  | succ fewer =>
      refine ⟨fewer, rfl, ?_⟩
      rw [State.run] at runs
      split at runs
      next isEmpty =>
        cases runs
        exact .inl ⟨isEmpty, rfl⟩
      next =>
        obtain ⟨⟨next, rest⟩, step, runs⟩ := Option.bind_eq_some_iff.mp runs
        exact .inr ⟨next, rest, step, runs⟩

theorem run_congr {other : List Char} (same : state.flags.skip input = state.flags.skip other)
    (fuel : Nat) : state.run fuel input = state.run fuel other := by
  cases fuel with
  | zero => rfl
  | succ fuel => rw [State.run, State.run, same]

theorem run_succ_of_nil {fuel : Nat} (isEmpty : state.flags.skip input = []) :
    state.run (fuel + 1) input = some state := by
  rw [State.run, isEmpty]

theorem run_succ_of_step {fuel : Nat}
    (step : state.step (state.flags.skip input) = some (next, rest)) :
    state.run (fuel + 1) input = next.run fuel rest := by
  rw [State.run]
  split
  next isEmpty =>
    rw [isEmpty] at step
    cases step
  next =>
    rw [step]
    rfl

/-- A step takes at least one character. -/
theorem step_isSuffix (step : state.step input = some (next, rest)) :
    rest <:+ input ∧ rest.length < input.length := by
  cases input with
  | nil => cases step
  | cons char input =>
      exact isSuffix_and_length_lt List.suffix_rfl (step_consumes state char input next rest step)

/-- Without a parenthesis that closes a group no run closes all groups. -/
theorem run_outer_ne_nil {fuel : Nat} {final : State} (runs : state.run fuel input = some final)
    (noClose : ')' ∉ input) (isOpen : state.outer ≠ []) : final.outer ≠ [] := by
  induction fuel generalizing state input with
  | zero => cases runs
  | succ fuel ih =>
      obtain ⟨fewer, same, ⟨_, rfl⟩ | ⟨next, rest, step, runs⟩⟩ := run_eq_some runs
      · exact isOpen
      · obtain rfl := Nat.succ.inj same
        have isSuffix := (step_isSuffix step).1.trans (skip_isSuffix _ _)
        have notClose : (state.flags.skip input).head? ≠ some ')' := by
          intro isClose
          exact noClose ((skip_isSuffix _ input).subset (List.mem_of_mem_head? isClose))
        exact ih runs (fun isClose => noClose (isSuffix.subset isClose))
          (step_outer_ne_nil step notClose isOpen)

/-- The flags to return to at the end of the outermost group stay in every run. -/
theorem run_getLast? {fuel : Nat} {final : State} (runs : state.run fuel input = some final) :
    final.befores.getLast? = state.befores.getLast? := by
  induction fuel generalizing state input with
  | zero => cases runs
  | succ fuel ih =>
      obtain ⟨fewer, same, ⟨_, rfl⟩ | ⟨next, rest, step, runs⟩⟩ := run_eq_some runs
      · rfl
      · obtain rfl := Nat.succ.inj same
        rw [ih runs, step_getLast? step]

/-! ## Leaving the context -/

/-- Reading comes to a parenthesis that closes a group which is not open. -/
inductive State.Escapes : State → List Char → Prop
  | close {state : State} {input rest : List Char}
      (isClose : state.flags.skip input = ')' :: rest) (noGroup : state.outer = []) :
      Escapes state input
  | step {state next : State} {input rest : List Char}
      (step : state.step (state.flags.skip input) = some (next, rest))
      (escapes : Escapes next rest) : Escapes state input

theorem State.Escapes.run_eq_none (escapes : state.Escapes input) (fuel : Nat) :
    state.run fuel input = none := by
  induction escapes generalizing fuel with
  | @close state input rest isClose noGroup =>
      refine Option.eq_none_iff_forall_ne_some.mpr fun final runs => ?_
      obtain ⟨_, _, ⟨isEmpty, _⟩ | ⟨next, rest, step, _⟩⟩ := run_eq_some runs
      · rw [isClose] at isEmpty
        cases isEmpty
      · rw [isClose, State.step, State.closeGroup, noGroup] at step
        cases step
  | step step _ ih =>
      cases fuel with
      | zero => rfl
      | succ fuel => rw [run_succ_of_step step, ih]

/-- The end of a group at the end of a text. -/
def closing : List Char := [')', '$']

theorem suffix_append_closing (isSuffix : rest <:+ input ++ closing) :
    (∃ front, rest = front ++ closing) ∨ ')' ∉ rest := by
  rcases List.suffix_or_suffix_of_suffix isSuffix (List.suffix_append input closing) with
    inClosing | ⟨front, rfl⟩
  · rcases List.suffix_cons_iff.mp inClosing with rfl | inLast
    · exact .inl ⟨[], rfl⟩
    · exact .inr fun isClose => absurd (inLast.subset isClose) (by decide)
  · exact .inl ⟨front, rfl⟩

theorem count_eq_none (flags : Flags) (inClosing : rest <:+ closing) : count flags rest = none := by
  rcases List.suffix_cons_iff.mp inClosing with rfl | inLast
  · rfl
  · rcases List.suffix_cons_iff.mp inLast with rfl | inNone
    · rfl
    · rw [List.suffix_nil.mp inNone]
      rfl

theorem skip_closing (flags : Flags) : flags.skip closing = closing := by
  rw [Flags.skip]
  split <;> rfl

/-- A brace in front of the closing parenthesis does not begin a repetition. -/
theorem run_dangling (dangling : Dangling state.flags rest) (fuel : Nat) :
    state.run fuel (rest ++ closing) = none := by
  obtain ⟨behind, rfl, isEmpty⟩ := dangling
  have isBrace : state.flags.skip ('\x7b' :: (behind ++ closing)) =
      '\x7b' :: (behind ++ closing) := by
    rw [Flags.skip]
    split <;> rfl
  have isClosing : state.flags.skip (behind ++ closing) <:+ closing := by
    rcases skip_append state.flags behind closing with same | ⟨_, inClosing⟩
    · rw [same, isEmpty]
      exact List.suffix_rfl
    · exact inClosing
  have noLimits : limits state.flags (behind ++ closing) = none := by
    rw [limits, count_eq_none _ isClosing]
    rfl
  refine Option.eq_none_iff_forall_ne_some.mpr fun final runs => ?_
  obtain ⟨_, _, ⟨isEnd, _⟩ | ⟨next, rest, step, _⟩⟩ := run_eq_some runs
  · rw [List.cons_append, isBrace] at isEnd
    cases isEnd
  · rw [List.cons_append, isBrace, State.step, noLimits] at step
    cases step

/-! ## Reading in a context -/

section Context

variable {context : List Group}

theorem outer_under_ne_nil (isOpen : context ≠ []) (state : State) :
    (state.under context).outer ≠ [] :=
  List.append_ne_nil_of_right_ne_nil _ isOpen

/-- A step in a context closes the context, leaves it open for good, cannot be followed by
another step, or is a step without the context. -/
theorem step_inContext (isOpen : context ≠ [])
    (step : (state.under context).step (state.flags.skip (input ++ closing)) = some (next, rest)) :
    (state.outer = [] ∧
        (state.flags.skip input = [] ∧ state.flags.skip (input ++ closing) = closing ∨
          ∃ more, state.flags.skip input = ')' :: more)) ∨
      (next.outer ≠ [] ∧ ')' ∉ rest) ∨ (∀ fuel, next.run fuel rest = none) ∨
      ∃ nextAlone behind, state.step (state.flags.skip input) = some (nextAlone, behind) ∧
        next = nextAlone.under context ∧ rest = behind ++ closing := by
  have skipped := skip_isSuffix state.flags (input ++ closing)
  have isSuffix := (step_isSuffix step).1
  have consumed := isSuffix.trans skipped
  -- Behind the parenthesis of the context no other one stands, so nothing closes it there.
  rcases suffix_append_closing skipped with ⟨front, isFront⟩ | noClose
  · have isAlone := skip_alone state.flags isFront
    rw [isFront] at step
    by_cases pops : (front ++ closing).head? = some ')' → state.outer ≠ []
    · rw [step_under pops] at step
      obtain ⟨⟨next, rest⟩, step, same⟩ := Option.map_eq_some_iff.mp step
      cases same
      rcases suffix_append_closing consumed with ⟨behind, rfl⟩ | noClose
      · rcases step_alone state (by decide) (by decide) step with stepAlone | dangling
        · exact .inr (.inr (.inr ⟨next, behind, isAlone ▸ stepAlone, rfl, rfl⟩))
        · have stuck : Dangling (next.under context).flags behind := dangling
          exact .inr (.inr (.inl (run_dangling stuck)))
      · exact .inr (.inl ⟨outer_under_ne_nil isOpen next, noClose⟩)
    · rw [Classical.not_imp, not_not] at pops
      refine .inl ⟨pops.2, ?_⟩
      rw [isAlone]
      cases front with
      | nil => exact .inl ⟨rfl, isFront⟩
      | cons char front => exact .inr ⟨front, congrArg (· :: front) (Option.some.inj pops.1)⟩
  · have notClose : (state.flags.skip (input ++ closing)).head? ≠ some ')' :=
      fun isClose => noClose (List.mem_of_mem_head? isClose)
    exact .inr (.inl ⟨step_outer_ne_nil step notClose (outer_under_ne_nil isOpen state),
      fun isClose => noClose (isSuffix.subset isClose)⟩)

/-- A pattern is read in a context as it is alone up to the end of the context, unless it comes to
a parenthesis that closes a group of the context. -/
theorem run_under {fuel : Nat} {final : State} (isOpen : context ≠ [])
    (runs : (state.under context).run fuel (input ++ closing) = some final)
    (isClosed : final.outer = []) :
    state.Escapes input ∨
      ∃ last, (∀ needed, input.length < needed → state.run needed input = some last) ∧
        last.outer = [] ∧ ∃ remaining, (last.under context).run remaining closing = some final := by
  -- The state without the context is the invariant; it goes on while steps stay in the pattern.
  induction fuel generalizing state input with
  | zero => cases runs
  | succ fuel ih =>
      have runsAll := runs
      obtain ⟨fewer, same, isEnd | ⟨next, rest, step, runs⟩⟩ := run_eq_some runs
      · rw [isEnd.2] at isClosed
        exact absurd isClosed (outer_under_ne_nil isOpen state)
      obtain rfl := Nat.succ.inj same
      rcases step_inContext isOpen step with ⟨noOuter, ⟨isEmpty, isClosing⟩ | ⟨more, isClose⟩⟩ |
        ⟨staysOpen, noClose⟩ | stuck | ⟨nextAlone, behind, stepAlone, rfl, rfl⟩
      · refine .inr ⟨state, fun needed enough => ?_, noOuter, fuel + 1, ?_⟩
        · obtain ⟨needed, rfl⟩ := Nat.exists_eq_succ_of_ne_zero (Nat.ne_zero_of_lt enough)
          exact run_succ_of_nil isEmpty
        · rw [← runsAll]
          have same : (state.under context).flags.skip closing =
              (state.under context).flags.skip (input ++ closing) :=
            (skip_closing state.flags).trans isClosing.symm
          exact run_congr same _
      · exact .inl (.close isClose noOuter)
      · exact absurd isClosed (run_outer_ne_nil runs noClose staysOpen)
      · rw [stuck] at runs
        cases runs
      · rcases ih runs with escapes | ⟨last, runsAlone, noOuter, runsOn⟩
        · exact .inl (.step stepAlone escapes)
        · refine .inr ⟨last, fun needed enough => ?_, noOuter, runsOn⟩
          have shorter := (step_isSuffix stepAlone).2.trans_le (skip_isSuffix _ _).length_le
          obtain ⟨needed, rfl⟩ := Nat.exists_eq_succ_of_ne_zero (Nat.ne_zero_of_lt enough)
          rw [run_succ_of_step stepAlone]
          exact runsAlone needed (by omega)

end Context

/-! ## Patterns between the ends of a text -/

/-- The group of a text's beginning, in which a pattern between the ends of a text is read. -/
def opening : Group := ⟨Flags.initial, [], [.regex (.look .startText) 0]⟩

theorem run_opening (fuel : Nat) (input : List Char) :
    State.initial.run (fuel + 2) ('^' :: '(' :: '?' :: ':' :: input) =
      (State.initial.under [opening]).run fuel input :=
  rfl

/-- The end of the context adds the pattern and the end of the text to its group. -/
theorem group_of_run_closing {last final : State} {parent : Group} {fuel : Nat}
    (noOuter : last.outer = []) (isInitial : last.group.before = Flags.initial)
    (runs : (last.under [parent]).run fuel closing = some final) :
    final.group = { parent with
      parts := .regex (.look .endText) 0 ::
        .regex last.group.close.1 (last.group.close.2 + 1) :: parent.parts } := by
  obtain ⟨_, _, ⟨isEmpty, _⟩ | ⟨closed, rest, step, runs⟩⟩ := run_eq_some runs
  · rw [skip_closing] at isEmpty
    cases isEmpty
  rw [skip_closing, closing, State.step, State.closeGroup, State.under, noOuter] at step
  cases step
  rw [isInitial] at runs
  obtain ⟨_, _, ⟨isEmpty, _⟩ | ⟨ended, rest, step, runs⟩⟩ := run_eq_some runs
  · cases isEmpty
  cases step
  obtain ⟨_, _, ⟨_, rfl⟩ | ⟨_, _, step, _⟩⟩ := run_eq_some runs
  · rfl
  · cases step

variable {pattern : String} {regex : Regex}

/-- A pattern can be read if its reading ends with all groups closed and what is read is neither
too deep nor too large. -/
theorem parse?_eq_some_iff :
    parse? pattern = some regex ↔
      ∃ last, State.initial.run (pattern.toList.length + 1) pattern.toList = some last ∧
        last.outer = [] ∧ last.group.close.2 ≤ depthLimit ∧ regex.size ≤ sizeLimit ∧
        last.group.close.1 = regex := by
  unfold parse?
  constructor
  · intro parsed
    obtain ⟨last, runs, parsed⟩ := Option.bind_eq_some_iff.mp parsed
    obtain ⟨_, isClosed, parsed⟩ := Option.bind_eq_some_iff.mp parsed
    obtain ⟨_, fits, parsed⟩ := Option.bind_eq_some_iff.mp parsed
    rw [Option.guard_eq_some'] at isClosed fits
    cases parsed
    rw [Bool.and_eq_true, decide_eq_true_iff, decide_eq_true_iff] at fits
    exact ⟨last, runs, List.isEmpty_iff.mp isClosed, fits.1, fits.2, rfl⟩
  · rintro ⟨last, runs, noOuter, fitsDepth, fitsSize, rfl⟩
    refine Option.bind_eq_some_iff.mpr ⟨last, runs, Option.bind_eq_some_iff.mpr ⟨(), ?_,
      Option.bind_eq_some_iff.mpr ⟨(), ?_, rfl⟩⟩⟩
    · rw [Option.guard_eq_some', List.isEmpty_iff]
      exact noOuter
    · rw [Option.guard_eq_some', Bool.and_eq_true, decide_eq_true_iff, decide_eq_true_iff]
      exact ⟨fitsDepth, fitsSize⟩

/-- A pattern comes to a parenthesis that closes a group which it has not opened. -/
def Escapes (pattern : String) : Prop := State.initial.Escapes pattern.toList

theorem Escapes.parse?_eq_none (escapes : Escapes pattern) : parse? pattern = none := by
  refine Option.eq_none_iff_forall_ne_some.mpr fun regex parsed => ?_
  obtain ⟨last, runs, _⟩ := parse?_eq_some_iff.mp parsed
  rw [State.Escapes.run_eq_none escapes] at runs
  cases runs

/-- A pattern that can be read between the ends of a text can be read alone, unless it leaves its
group. -/
theorem parse?_between (accepted : parse? ("^(?:" ++ pattern ++ ")$") = some regex) :
    Escapes pattern ∨ ∃ alone, parse? pattern = some alone ∧
      regex = .seq (.look .startText) (.seq alone (.look .endText)) := by
  have asList : ("^(?:" ++ pattern ++ ")$").toList =
      '^' :: '(' :: '?' :: ':' :: (pattern.toList ++ closing) := by
    rw [String.toList_append, String.toList_append]
    rfl
  obtain ⟨final, runs, isClosed, fitsDepth, fitsSize, rfl⟩ := parse?_eq_some_iff.mp accepted
  rw [asList] at runs
  rcases run_under (List.cons_ne_nil _ _) ((run_opening _ _).symm.trans runs) isClosed with
    escapes | ⟨last, runsAlone, noOuter, remaining, runsOn⟩
  · exact .inl escapes
  · right
    have isInitial : last.group.before = Flags.initial := by
      have bottom := run_getLast? (runsAlone _ (Nat.lt_succ_self _))
      rw [State.befores, noOuter] at bottom
      exact Option.some.inj bottom
    have isGroup := group_of_run_closing noOuter isInitial runsOn
    have isRegex : final.group.close.1 =
        .seq (.look .startText) (.seq last.group.close.1 (.look .endText)) := by
      rw [isGroup]
      rfl
    have isDeeper : last.group.close.2 ≤ final.group.close.2 := by
      rw [isGroup]
      generalize last.group.close = closed
      change closed.2 ≤ depthOver 1 [depthOver 3 [0, closed.2 + 1, 0]]
      simp only [depthOver, List.foldl_cons, List.foldl_nil]
      omega
    have isLarger : last.group.close.1.size ≤ final.group.close.1.size := by
      simp only [isRegex, size]
      omega
    exact ⟨_, parse?_eq_some_iff.mpr ⟨last, runsAlone _ (Nat.lt_succ_self _), noOuter,
      isDeeper.trans fitsDepth, isLarger.trans fitsSize, rfl⟩, isRegex⟩

end Tenancy.Regex
