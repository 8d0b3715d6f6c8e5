import Tenancy.Proofs.Glob
import Tenancy.Proofs.Regex.Context
import Tenancy.Proofs.Regex.Matching

/-!
# The regular expression of a glob

A glob can be written as a pattern between the ends of a text: an asterisk as a dot that is
repeated, a question mark as a dot, and every other character as itself, behind a backslash if
it has a meaning in patterns.  Reading that pattern gives one part for each character of the
glob, and it matches the texts that the glob matches.
-/

namespace Tenancy.Glob

open Regex (CharSet Part State)

/-- How a character of a glob is written in a pattern. -/
def written (char : Char) : List Char :=
  if char = '*' then ['.', '*']
  else if char = '?' then ['.']
  else if Regex.isMeta char then ['\\', char]
  else [char]

/-- The pattern of a glob between the ends of a text. -/
def expression (glob : Glob) : String :=
  String.ofList ('^' :: (glob.pattern.toList.flatMap written ++ ['$']))

/-- The regular expression of a character of a glob. -/
def partOf (char : Char) : Regex :=
  if char = '*' then .repeated (.one CharSet.notLineFeed) 0 none
  else if char = '?' then .one CharSet.notLineFeed
  else .one (CharSet.single char)

/-- The depth of the regular expression of a character of a glob. -/
def depthOf (char : Char) : Nat := if char = '*' then 1 else 0

/-- The regular expression of a glob. -/
def compiled (glob : Glob) : Regex :=
  Regex.sequence (.look .startText :: (glob.pattern.toList.map partOf ++ [.look .endText]))

/-! ## Reading the pattern -/

section Reading

variable {char : Char} {rest : List Char}

/-- A character without a meaning in patterns stands for itself. -/
theorem step_of_not_isMeta (state : State) (plain : Regex.isMeta char = false) :
    state.step (char :: rest) = some (state.pushLeaf (state.flags.literal char), rest) := by
  rw [State.step]
  all_goals
    rintro rfl
    exact absurd plain (by decide)

/-- A backslash takes the meaning of a character away. -/
theorem step_backslash (state : State) (isMeta : Regex.isMeta char = true) :
    state.step ('\\' :: char :: rest) =
      some (state.pushLeaf (state.flags.literal char), rest) := by
  have escaped : Regex.escape state.flags (char :: rest) = some (.char char, rest) := by
    rw [Regex.escape]
    · rw [Regex.isEscapable, isMeta]
      rfl
    all_goals
      rintro rfl
      exact absurd isMeta (by decide)
  rw [State.step, escaped]
  rfl

/-- The state behind some parts of a pattern that opens no group and sets no flags. -/
def stateBehind (parts : List Part) : State :=
  { State.initial with group := { State.initial.group with parts := parts } }

/-- What is read from a character of a glob. -/
def readPart (char : Char) : Part := .regex (partOf char) (depthOf char)

theorem literal_initial (char : Char) : Regex.Flags.initial.literal char =
    .one (CharSet.single char) := by
  simp [Regex.Flags.literal, Regex.Flags.initial, Regex.Flags.fold]

/-- A character of a glob is written so that its part is read and nothing of what follows. -/
theorem run_written (char : Char) (parts : List Part) {rest : List Char}
    (notLazy : rest.head? ≠ some '?') {fuel : Nat} (enough : (written char ++ rest).length < fuel) :
    ∃ fewer, rest.length < fewer ∧
      (stateBehind parts).run fuel (written char ++ rest) =
        (stateBehind (readPart char :: parts)).run fewer rest := by
  obtain ⟨fuel, rfl⟩ := Nat.exists_eq_succ_of_ne_zero (Nat.ne_zero_of_lt enough)
  unfold written at enough ⊢
  split at enough
  next isRun =>
    subst isRun
    simp only [if_true, List.cons_append, List.nil_append, List.length_cons] at enough ⊢
    obtain ⟨fuel, rfl⟩ := Nat.exists_eq_succ_of_ne_zero (show fuel ≠ 0 by omega)
    have notSkipped : Regex.skipLazy rest = rest := by
      unfold Regex.skipLazy
      split
      · exact absurd rfl notLazy
      · rfl
    -- The dot is read first, and the star then repeats the part that was read.
    have dot : (stateBehind parts).step ('.' :: '*' :: rest) =
        some (stateBehind (.regex (.one CharSet.notLineFeed) 0 :: parts), '*' :: rest) :=
      rfl
    refine ⟨fuel, by omega, ?_⟩
    rw [Regex.run_succ_of_step dot]
    exact Regex.run_succ_of_step (congrArg (fun rest => some (_, rest)) notSkipped)
  next notRun =>
    split at enough
    next isAny =>
      subst isAny
      refine ⟨fuel, by simpa using enough, ?_⟩
      exact Regex.run_succ_of_step rfl
    next notAny =>
      have isPart : readPart char = .regex (.one (CharSet.single char)) 0 := by
        simp [readPart, partOf, depthOf, notRun, notAny]
      rw [if_neg notRun, if_neg notAny]
      split at enough
      next isMeta =>
        refine ⟨fuel, by simp at enough; omega, ?_⟩
        rw [if_pos isMeta]
        refine Regex.run_succ_of_step ((step_backslash _ isMeta).trans ?_)
        rw [isPart, ← literal_initial]
        rfl
      next plain =>
        refine ⟨fuel, by simpa using enough, ?_⟩
        rw [if_neg plain]
        refine Regex.run_succ_of_step
          ((step_of_not_isMeta _ (Bool.eq_false_of_not_eq_true plain)).trans ?_)
        rw [isPart, ← literal_initial]
        rfl

theorem head?_written_ne (pattern : List Char) :
    (pattern.flatMap written ++ ['$']).head? ≠ some '?' := by
  cases pattern with
  | nil => decide
  | cons char pattern =>
      rw [List.flatMap_cons, written]
      split
      next => simp
      next =>
        split
        next => simp
        next notAny => split <;> simp [notAny]

/-- All characters of a glob are read, and then the end of the text. -/
theorem run_pattern (pattern : List Char) (parts : List Part) {fuel : Nat}
    (enough : (pattern.flatMap written ++ ['$']).length < fuel) :
    (stateBehind parts).run fuel (pattern.flatMap written ++ ['$']) =
      some (stateBehind
        (.regex (.look .endText) 0 :: ((pattern.map readPart).reverse ++ parts))) := by
  induction pattern generalizing parts fuel with
  | nil =>
      obtain ⟨fuel, rfl⟩ : ∃ more, fuel = more + 2 := Nat.exists_eq_add_of_le' enough
      rw [List.flatMap_nil, List.nil_append, Regex.run_succ_of_step rfl]
      exact Regex.run_succ_of_nil rfl
  | cons char pattern ih =>
      rw [List.flatMap_cons, List.append_assoc] at enough ⊢
      obtain ⟨fewer, stillEnough, runs⟩ := run_written char parts (head?_written_ne pattern) enough
      rw [runs, ih _ stillEnough, List.map_cons, List.reverse_cons, List.append_assoc]
      rfl

/-- The parts of a glob between the ends of a text, the last one first. -/
def partsOf (pattern : List Char) : List Part :=
  .regex (.look .endText) 0 :: ((pattern.map readPart).reverse ++ [.regex (.look .startText) 0])

theorem regexes_partsOf (pattern : List Char) :
    (Regex.regexes (partsOf pattern)).reverse =
      (.look .startText, 0) ::
        (pattern.map (fun char => (partOf char, depthOf char)) ++ [(.look .endText, 0)]) := by
  simp [partsOf, Regex.regexes, readPart, List.filterMap_reverse, Function.comp_def]

/-- The parts of a glob make its regular expression. -/
theorem close_fst (pattern : List Char) : (stateBehind (partsOf pattern)).group.close.1 =
    Regex.sequence (.look .startText :: (pattern.map partOf ++ [.look .endText])) := by
  change Regex.sequence ((Regex.regexes (partsOf pattern)).reverse.map (·.1)) = _
  rw [regexes_partsOf]
  simp [Function.comp_def]

theorem depthOver_le {parts limit : Nat} {depths : List Nat}
    (fit : ∀ depth ∈ depths, depth ≤ limit) : Regex.depthOver parts depths ≤ limit + 1 := by
  have greatestFits : depths.foldl max 0 ≤ limit :=
    List.foldlRecOn (motive := (· ≤ limit)) depths max (Nat.zero_le limit)
      fun greatest fits depth member => Nat.max_le.mpr ⟨fits, fit depth member⟩
  rw [Regex.depthOver]
  split <;> omega

/-- The parts of a glob are hardly nested. -/
theorem close_snd_le (pattern : List Char) :
    (stateBehind (partsOf pattern)).group.close.2 ≤ Regex.depthLimit := by
  have branchFits : (stateBehind (partsOf pattern)).group.branch.2 ≤ 2 := by
    refine depthOver_le fun depth member => ?_
    change depth ∈ (Regex.regexes (partsOf pattern)).reverse.map (·.2) at member
    rw [regexes_partsOf] at member
    simp only [List.map_cons, List.map_append, List.map_map, List.map_nil, List.mem_cons,
      List.mem_append, List.mem_map, Function.comp_apply, List.not_mem_nil, or_false] at member
    rcases member with rfl | ⟨char, _, rfl⟩ | rfl
    · exact Nat.zero_le 1
    · unfold depthOf
      split <;> omega
    · exact Nat.zero_le 1
  have closeFits : (stateBehind (partsOf pattern)).group.close.2 ≤ 3 :=
    depthOver_le fun depth member => (List.mem_singleton.mp member) ▸ branchFits
  exact closeFits.trans (by decide)

/-- The pattern of a glob is read as its regular expression, unless that is too large. -/
theorem parse?_expression_eq_some_iff {glob : Glob} {regex : Regex} :
    Regex.parse? glob.expression = some regex ↔
      regex = glob.compiled ∧ glob.compiled.size ≤ Regex.sizeLimit := by
  have runs : State.initial.run (glob.expression.toList.length + 1) glob.expression.toList =
      some (stateBehind (partsOf glob.pattern.toList)) := by
    rw [expression, String.toList_ofList, List.length_cons, Regex.run_succ_of_step rfl]
    exact run_pattern _ _ (Nat.lt_succ_self _)
  rw [Regex.parse?_eq_some_iff, runs]
  constructor
  · rintro ⟨last, isLast, _, _, fits, isRegex⟩
    cases isLast
    rw [close_fst] at isRegex
    subst isRegex
    exact ⟨rfl, fits⟩
  · rintro ⟨rfl, fits⟩
    exact ⟨_, rfl, rfl, close_snd_le _, fits, close_fst _⟩

end Reading

/-! ## Matching -/

section Matching

variable {text : List Char} {start stop : Nat}

theorem holds_single_iff {char other : Char} :
    (CharSet.single char).holds other.toNat = true ↔ other = char := by
  rw [← Char.toNat_inj]
  simp only [CharSet.single, CharSet.range, Bool.and_eq_true, decide_eq_true_eq]
  omega

theorem holds_notLineFeed_iff {char : Char} :
    CharSet.notLineFeed.holds char.toNat = true ↔ char ≠ '\n' := by
  rw [Ne, ← holds_single_iff, CharSet.notLineFeed, CharSet.complement, Bool.not_eq_true',
    Bool.not_eq_true]

/-- A dot matches a number of times in a row if so many characters follow none of which is a
line feed. -/
theorem times_dot_iff {count : Nat} :
    Regex.Times ((Regex.one CharSet.notLineFeed).Spans text) count start stop ↔
      ∃ part rest, part.length = count ∧ (∀ char ∈ part, char ≠ '\n') ∧
        text.drop start = part ++ rest ∧ stop = start + count := by
  induction count generalizing start with
  | zero =>
      constructor
      · intro same
        exact ⟨[], text.drop start, rfl, by simp, rfl, same⟩
      · rintro ⟨_, _, _, _, _, isStop⟩
        exact isStop
  | succ count ih =>
      constructor
      · rintro ⟨middle, spans, others⟩
        obtain ⟨char, rest, left, holds, rfl⟩ := Regex.spans_one_iff.mp spans
        obtain ⟨part, behind, isLength, noFeed, isRest, isStop⟩ := ih.mp others
        rw [← List.drop_drop, left, List.drop_one, List.tail_cons] at isRest
        refine ⟨char :: part, behind, congrArg (· + 1) isLength,
          List.forall_mem_cons.mpr ⟨holds_notLineFeed_iff.mp holds, noFeed⟩, ?_, by omega⟩
        rw [left, isRest]
        rfl
      · rintro ⟨part, behind, isLength, noFeed, left, isStop⟩
        cases part with
        | nil => cases isLength
        | cons char part =>
            obtain ⟨firstNoFeed, noFeed⟩ := List.forall_mem_cons.mp noFeed
            refine ⟨start + 1, Regex.spans_one_iff.mpr
              ⟨char, part ++ behind, left, holds_notLineFeed_iff.mpr firstNoFeed, rfl⟩,
              ih.mpr ⟨part, behind, Nat.succ.inj isLength, noFeed, ?_, by omega⟩⟩
            rw [← List.drop_drop, left]
            rfl

/-- The regular expression of a character matches what the character stands for. -/
theorem spans_partOf_iff {char : Char} :
    (partOf char).Spans text start stop ↔
      ∃ part rest, StandsFor char part ∧ text.drop start = part ++ rest ∧
        stop = start + part.length := by
  by_cases isRun : char = '*'
  · subst isRun
    constructor
    · rintro ⟨count, _, _, times⟩
      obtain ⟨part, rest, rfl, noFeed, left, isStop⟩ := times_dot_iff.mp times
      exact ⟨part, rest, .run noFeed, left, isStop⟩
    · rintro ⟨part, rest, stands, left, isStop⟩
      cases stands with
      | run noFeed =>
          exact ⟨part.length, Nat.zero_le _, nofun,
            times_dot_iff.mpr ⟨part, rest, rfl, noFeed, left, isStop⟩⟩
      | itself notRun => exact absurd rfl notRun
  · have takes_iff (set : CharSet) (isPart : partOf char = .one set)
        (holds_iff : ∀ taken : Char, set.holds taken.toNat = true ↔
          (Piece.ofChar char).takes taken = true) :
        (partOf char).Spans text start stop ↔
          ∃ part rest, StandsFor char part ∧ text.drop start = part ++ rest ∧
            stop = start + part.length := by
      rw [isPart, Regex.spans_one_iff]
      constructor
      · rintro ⟨taken, rest, left, holds, isStop⟩
        exact ⟨[taken], rest,
          (standsFor_iff isRun).mpr ⟨taken, (holds_iff taken).mp holds, rfl⟩, left, isStop⟩
      · rintro ⟨part, rest, stands, left, isStop⟩
        obtain ⟨taken, takes, rfl⟩ := (standsFor_iff isRun).mp stands
        exact ⟨taken, rest, left, (holds_iff taken).mpr takes, isStop⟩
    by_cases isAny : char = '?'
    · subst isAny
      refine takes_iff CharSet.notLineFeed rfl fun taken => ?_
      rw [holds_notLineFeed_iff, ← bne_iff_ne]
      rfl
    · refine takes_iff (CharSet.single char) (by rw [partOf, if_neg isRun, if_neg isAny])
        fun taken => ?_
      rw [holds_single_iff, ofChar_eq_exactly isRun isAny, Piece.takes, beq_iff_eq]

/-- What is left of a text behind a part of it. -/
theorem drop_add_length {part rest : List Char} (inText : start ≤ text.length)
    (left : text.drop start = part ++ rest) :
    text.drop (start + part.length) = rest ∧ start + part.length ≤ text.length := by
  have lengths := congrArg List.length left
  rw [List.length_drop, List.length_append] at lengths
  refine ⟨?_, by omega⟩
  rw [← List.drop_drop, left, List.drop_left]

/-- The parts of a pattern match what is left of a text if the pattern describes it. -/
theorem spans_parts_iff {pattern : List Char} (inText : start ≤ text.length) :
    (Regex.sequence (pattern.map partOf ++ [.look .endText])).Spans text start stop ↔
      stop = text.length ∧ Describes pattern (text.drop start) := by
  induction pattern generalizing start with
  | nil =>
      rw [Describes.nil_iff, List.drop_eq_nil_iff]
      refine Regex.spans_endText_iff.trans ?_
      omega
  | cons char pattern ih =>
      rw [List.map_cons, List.cons_append, Regex.spans_sequence_cons_iff, Describes.cons_iff]
      constructor
      · rintro ⟨middle, first, others⟩
        obtain ⟨part, rest, stands, left, rfl⟩ := spans_partOf_iff.mp first
        obtain ⟨isRest, stillInText⟩ := drop_add_length inText left
        obtain ⟨isStop, describes⟩ := (ih stillInText).mp others
        exact ⟨isStop, part, rest, stands, isRest ▸ describes, left.symm⟩
      · rintro ⟨isStop, part, rest, stands, describes, left⟩
        obtain ⟨isRest, stillInText⟩ := drop_add_length inText left.symm
        exact ⟨start + part.length, spans_partOf_iff.mpr ⟨part, rest, stands, left.symm, rfl⟩,
          (ih stillInText).mpr ⟨isStop, isRest.symm ▸ describes⟩⟩

end Matching

/-- The regular expression of a glob matches the texts that the glob matches. -/
theorem isMatch_compiled (glob : Glob) (text : String) :
    glob.compiled.isMatch text = glob.isMatch text := by
  rw [Bool.eq_iff_iff, Regex.isMatch_iff, isMatch_iff_describes]
  constructor
  · rintro ⟨start, stop, _, spans⟩
    obtain ⟨middle, atStart, others⟩ := Regex.spans_sequence_cons_iff.mp spans
    obtain ⟨_, rfl⟩ := Regex.spans_startText_iff.mp atStart
    exact ((spans_parts_iff (Nat.zero_le _)).mp others).2
  · intro describes
    exact ⟨0, text.toList.length, Nat.zero_le _, Regex.spans_sequence_cons_iff.mpr
      ⟨0, Regex.spans_startText_iff.mpr ⟨rfl, rfl⟩,
        (spans_parts_iff (Nat.zero_le _)).mpr ⟨rfl, describes⟩⟩⟩

/-- What the pattern of a glob is read as matches the texts that the glob matches. -/
theorem isMatch_of_parse?_expression {glob : Glob} {regex : Regex}
    (isRead : Regex.parse? glob.expression = some regex) (text : String) :
    regex.isMatch text = glob.isMatch text := by
  rw [(parse?_expression_eq_some_iff.mp isRead).1]
  exact glob.isMatch_compiled text

end Tenancy.Glob
