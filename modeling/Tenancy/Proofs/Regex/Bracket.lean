import Mathlib.Data.List.TakeWhile
import Tenancy.Proofs.Regex.Locality

/-!
# Bracketed classes do not depend on what follows

A bracketed class is read up to the bracket that closes it.  What follows it has no part in it if
no bracket and no dash stands there.
-/

namespace Tenancy.Regex.Bracket

variable {tail : List Char} (flags : Flags)

/-! ## Opening brackets -/

theorem leadingDashes_isSuffix (fuel : Nat) (level : Level) (input : List Char) :
    (leadingDashes flags fuel level input).2 <:+ input := by
  induction fuel generalizing level input with
  | zero => exact List.suffix_rfl
  | succ fuel ih =>
      unfold leadingDashes
      split
      next rest => exact (ih _ _).trans ((skip_isSuffix flags rest).trans (List.suffix_cons _ rest))
      next => exact List.suffix_rfl

theorem leadingDashes_alone {fuel needed : Nat} {level last : Level} {input rest : List Char}
    (read : leadingDashes flags fuel level (input ++ tail) = (last, rest ++ tail))
    (fits : (input ++ tail).length ≤ fuel) (enough : input.length ≤ needed) :
    leadingDashes flags needed level input = (last, rest) := by
  induction fuel generalizing needed level input with
  | zero =>
      have isEmpty := List.length_eq_zero_iff.mp (Nat.le_zero.mp fits)
      obtain ⟨rfl, rfl⟩ := List.append_eq_nil_iff.mp isEmpty
      obtain ⟨rfl, same⟩ := Prod.mk.inj read
      obtain rfl : rest = [] := (List.append_eq_nil_iff.mp same.symm).1
      cases needed <;> rfl
  | succ fuel ih =>
      unfold leadingDashes at read
      split at read
      next behind isDash =>
        have isSuffix := leadingDashes_isSuffix flags fuel (level.add (CharSet.single '-'))
          (flags.skip behind)
        rw [read] at isSuffix
        obtain ⟨front, isFront⟩ := exists_append_of_isSuffix isSuffix
        cases input with
        | nil =>
            exact absurd (isSuffix.trans (skip_isSuffix flags behind))
              (not_append_isSuffix_of_cons isDash.symm)
        | cons char input =>
            obtain ⟨rfl, rfl⟩ := List.cons.inj isDash
            have shorter := (skip_isSuffix flags input).length_le
            rw [isFront] at read
            rw [List.length_cons] at enough
            rw [List.cons_append, List.length_cons, List.length_append] at fits
            obtain ⟨needed, rfl⟩ := Nat.exists_eq_succ_of_ne_zero (Nat.ne_zero_of_lt enough)
            rw [leadingDashes]
            rw [skip_alone flags isFront] at shorter ⊢
            exact ih read (by rw [List.length_append]; omega) (by omega)
      next isOther =>
        obtain ⟨rfl, same⟩ := Prod.mk.inj read
        obtain rfl := List.append_cancel_right same
        cases needed with
        | zero => rfl
        | succ needed =>
            unfold leadingDashes
            split
            next behind => exact absurd rfl (isOther (behind ++ tail))
            next => rfl

/-- Whether a bracket is negated, and the input behind that. -/
def caret (input : List Char) : Bool × List Char :=
  match flags.skip input with
  | '^' :: rest => (true, flags.skip rest)
  | rest => (false, rest)

/-- A level behind an opening bracket whose negation is known. -/
def opened (negated : Bool) (input : List Char) : Option (Level × List Char) :=
  match leadingDashes flags input.length ⟨negated, none, CharSet.none⟩ input with
  | (_, []) => none
  | (level, ']' :: rest) =>
      if input.head? == some '-' then some (level, ']' :: rest)
      else some (level.add (CharSet.single ']'), flags.skip rest)
  | (level, rest) => some (level, rest)

theorem openLevel_eq (input : List Char) :
    openLevel flags input = opened flags (caret flags input).1 (caret flags input).2 :=
  rfl

theorem caret_isSuffix (input : List Char) : (caret flags input).2 <:+ input := by
  have skipped := skip_isSuffix flags input
  unfold caret
  split
  next rest isCaret =>
    rw [isCaret] at skipped
    exact (skip_isSuffix flags rest).trans ((List.suffix_cons _ rest).trans skipped)
  next => exact skipped

theorem caret_alone {negated : Bool} {input rest : List Char}
    (read : caret flags (input ++ tail) = (negated, rest ++ tail)) :
    caret flags input = (negated, rest) := by
  unfold caret at read ⊢
  split at read
  next behind isCaret =>
    obtain ⟨rfl, isRest⟩ := Prod.mk.inj read
    obtain ⟨front, rfl⟩ := exists_append_of_isSuffix (isRest ▸ skip_isSuffix flags behind)
    have isFront : flags.skip (input ++ tail) = '^' :: front ++ tail := isCaret
    rw [skip_alone flags isFront]
    exact congrArg (Prod.mk true) (skip_alone flags isRest)
  next isOther =>
    obtain ⟨rfl, isRest⟩ := Prod.mk.inj read
    rw [skip_alone flags isRest]
    split
    next behind => exact absurd isRest (isOther (behind ++ tail))
    next => rfl

theorem opened_isSuffix {negated : Bool} {input rest : List Char} {level : Level}
    (read : opened flags negated input = some (level, rest)) : rest <:+ input := by
  have isSuffix := leadingDashes_isSuffix flags input.length ⟨negated, none, CharSet.none⟩ input
  unfold opened at read
  split at read
  next => cases read
  next behind isBracket =>
    rw [isBracket] at isSuffix
    split at read
    next =>
      cases read
      exact isSuffix
    next =>
      cases read
      exact (skip_isSuffix flags behind).trans ((List.suffix_cons _ behind).trans isSuffix)
  next behind _ _ isBehind =>
    rw [isBehind] at isSuffix
    cases read
    exact isSuffix

/-- Where something is left, the beginning of a bracket does not depend on what follows. -/
theorem opened_alone {negated : Bool} {input rest : List Char} {level : Level} {char : Char}
    (read : opened flags negated (input ++ tail) = some (level, char :: rest ++ tail)) :
    opened flags negated input = some (level, char :: rest) := by
  have sameHead : (input ++ tail).head? = input.head? := by
    cases input with
    | cons => rfl
    | nil =>
        have fits := (opened_isSuffix flags read).length_le
        rw [List.nil_append, List.length_append, List.length_cons] at fits
        omega
  unfold opened at read ⊢
  rw [sameHead] at read
  split at read
  next => cases read
  next first behind isBracket =>
    split at read
    next isDash =>
      obtain ⟨rfl, same⟩ := Prod.mk.inj (Option.some.inj read)
      obtain rfl := (List.cons.inj same).1
      rw [same] at isBracket
      rw [leadingDashes_alone flags isBracket le_rfl le_rfl]
      exact if_pos isDash
    next isDash =>
      obtain ⟨rfl, same⟩ := Prod.mk.inj (Option.some.inj read)
      obtain ⟨front, rfl⟩ := exists_append_of_isSuffix (same ▸ skip_isSuffix flags behind)
      have isBracket : _ = (first, ']' :: front ++ tail) := isBracket
      rw [leadingDashes_alone flags isBracket le_rfl le_rfl, ← skip_alone flags same]
      exact if_neg isDash
  next behind notEmpty isOther isBehind =>
    obtain ⟨rfl, same⟩ := Prod.mk.inj (Option.some.inj read)
    rw [same] at isBehind
    rw [leadingDashes_alone flags isBehind le_rfl le_rfl]
    split
    next isEmpty => cases isEmpty
    next isBracket =>
      rw [(Prod.mk.inj isBracket).2] at same
      exact absurd same (isOther _)
    next isSame =>
      cases isSame
      rfl

theorem openLevel_isSuffix {input rest : List Char} {level : Level}
    (read : openLevel flags input = some (level, rest)) : rest <:+ input :=
  (opened_isSuffix flags read).trans (caret_isSuffix flags input)

theorem openLevel_alone {input rest : List Char} {level : Level} {char : Char}
    (read : openLevel flags (input ++ tail) = some (level, char :: rest ++ tail)) :
    openLevel flags input = some (level, char :: rest) := by
  rw [openLevel_eq] at read
  cases isCaret : caret flags (input ++ tail) with
  | mk negated behind =>
      rw [isCaret] at read
      obtain ⟨front, rfl⟩ := exists_append_of_isSuffix (opened_isSuffix flags read)
      rw [openLevel_eq, caret_alone flags isCaret]
      exact opened_alone flags read

/-! ## Items and ranges -/

/-- The class whose name stands behind a colon and a caret. -/
def namedBehind (negated : Bool) (input : List Char) : Option (Option CharSet × List Char) :=
  let name := input.takeWhile (· ≠ ':')
  match input.dropWhile (· ≠ ':') with
  | ':' :: ']' :: rest =>
      (CharSet.asciiClasses.find? (·.1.toList == name)).map fun (_, ranges) =>
        (negatable flags negated (flags.fold (CharSet.ofRanges ranges)), rest)
  | _ => none

theorem namedBehind_eq_some_iff {negated : Bool} {input rest : List Char}
    {set : Option CharSet} :
    namedBehind flags negated input = some (set, rest) ↔
      ∃ name, input = name ++ ':' :: ']' :: rest ∧ (∀ char ∈ name, char ≠ ':') ∧
        (CharSet.asciiClasses.find? (·.1.toList == name)).map (fun (_, ranges) =>
          negatable flags negated (flags.fold (CharSet.ofRanges ranges))) = some set := by
  constructor
  · intro read
    have parts := input.takeWhile_append_dropWhile (p := (· ≠ ':'))
    have isName (char : Char) (isChar : char ∈ input.takeWhile (· ≠ ':')) : char ≠ ':' :=
      of_decide_eq_true (List.mem_takeWhile_imp (p := fun c => decide (c ≠ ':')) isChar)
    unfold namedBehind at read
    dsimp only at read
    split at read
    next behind isBehind =>
      obtain ⟨⟨_, ranges⟩, found, same⟩ := Option.map_eq_some_iff.mp read
      cases same
      rw [isBehind] at parts
      exact ⟨_, parts.symm, isName, by rw [found]; rfl⟩
    next => cases read
  · rintro ⟨name, rfl, isName, found⟩
    have passes (char : Char) (isChar : char ∈ name) : decide (char ≠ ':') = true :=
      decide_eq_true (isName char isChar)
    obtain ⟨_, isClass, rfl⟩ := Option.map_eq_some_iff.mp found
    rw [namedBehind, List.takeWhile_append_of_pos passes, List.dropWhile_append_of_pos passes]
    simp [isClass]

theorem named?_colon {behind : List Char} (notCaret : behind.head? ≠ some '^') :
    named? flags (':' :: behind) = namedBehind flags false behind := by
  unfold named?
  split
  next more same =>
    obtain rfl := (List.cons.inj same).2
    split
    next negated rest isParts =>
      split at isParts
      next => exact absurd rfl notCaret
      next =>
        cases isParts
        rfl
  next isOther => exact absurd rfl (isOther behind)

/-- A named class stands between colons, behind a caret if it is negated. -/
theorem named?_eq_some_iff {input rest : List Char} {set : Option CharSet} :
    named? flags input = some (set, rest) ↔
      ∃ negated name,
        input = ':' :: ((if negated then ['^'] else []) ++ name ++ ':' :: ']' :: rest) ∧
        (negated = false → name.head? ≠ some '^') ∧ (∀ char ∈ name, char ≠ ':') ∧
        (CharSet.asciiClasses.find? (·.1.toList == name)).map (fun (_, ranges) =>
          negatable flags negated (flags.fold (CharSet.ofRanges ranges))) = some set := by
  constructor
  · intro read
    cases input with
    | nil => cases read
    | cons char behind =>
        by_cases isColon : char = ':'
        · obtain rfl := isColon
          by_cases isCaret : behind.head? = some '^'
          · obtain ⟨more, rfl⟩ := List.head?_eq_some_iff.mp isCaret
            have read : namedBehind flags true more = some (set, rest) := read
            obtain ⟨name, rfl, isName, found⟩ := (namedBehind_eq_some_iff flags).mp read
            exact ⟨true, name, rfl, nofun, isName, found⟩
          · rw [named?_colon flags isCaret] at read
            obtain ⟨name, rfl, isName, found⟩ := (namedBehind_eq_some_iff flags).mp read
            refine ⟨false, name, rfl, fun _ => ?_, isName, found⟩
            cases name with
            | nil => nofun
            | cons => exact isCaret
        · simp [named?, isColon] at read
  · rintro ⟨negated, name, rfl, notCaret, isName, found⟩
    have read : namedBehind flags negated (name ++ ':' :: ']' :: rest) = some (set, rest) :=
      (namedBehind_eq_some_iff flags).mpr ⟨name, rfl, isName, found⟩
    cases negated with
    | true => exact read
    | false =>
        refine (named?_colon flags ?_).trans read
        cases name with
        | nil => nofun
        | cons => exact notCaret rfl

theorem named?_isSuffix {input rest : List Char} {set : Option CharSet}
    (read : named? flags input = some (set, rest)) : rest <:+ input := by
  obtain ⟨negated, name, rfl, _⟩ := (named?_eq_some_iff flags).mp read
  exact ((List.suffix_append [':', ']'] rest).trans (List.suffix_append _ _)).trans
    (List.suffix_cons _ _)

theorem named?_append_iff {input rest : List Char} {set : Option CharSet} :
    named? flags (input ++ tail) = some (set, rest ++ tail) ↔
      named? flags input = some (set, rest) := by
  rw [named?_eq_some_iff, named?_eq_some_iff]
  refine exists_congr fun negated => exists_congr fun name => and_congr_left fun _ => ?_
  have behind (front : List Char) :
      ':' :: (front ++ name ++ ':' :: ']' :: (rest ++ tail)) =
        ':' :: (front ++ name ++ ':' :: ']' :: rest) ++ tail := by
    simp
  rw [behind, List.append_left_inj]

/-- The item that an escape stands for. -/
def ofEscape : Escape → Option Item
  | .char char => literal flags char
  | .byte char => literal flags char
  | .set set => some (.set set)
  | .look _ => none

theorem item_escape (input : List Char) :
    item flags ('\\' :: input) =
      (escape flags input).bind fun read => (ofEscape flags read.1).map (·, read.2) := by
  rw [item]
  cases escape flags input with
  | none => rfl
  | some read =>
      obtain ⟨value, rest⟩ := read
      cases value <;> rfl

theorem isLocal_item_cons (char : Char) :
    IsLocal tail fun rest => item flags (char :: rest) := by
  by_cases isEscape : char = '\\'
  · obtain rfl := isEscape
    refine IsLocal.congr ⟨fun read => ?_, fun read => ?_⟩ (item_escape flags)
    · obtain ⟨⟨value, behind⟩, readEscape, isItem⟩ := Option.bind_eq_some_iff.mp read
      obtain ⟨_, _, same⟩ := Option.map_eq_some_iff.mp isItem
      cases same
      exact escape_isSuffix flags readEscape
    · obtain ⟨⟨value, behind⟩, readEscape, isItem⟩ := Option.bind_eq_some_iff.mp read
      obtain ⟨item, isValue, same⟩ := Option.map_eq_some_iff.mp isItem
      cases same
      rcases escape_alone flags readEscape with readAlone | ⟨⟨condition, rfl⟩, _⟩
      · rw [readAlone, Option.bind_some, isValue]
        rfl
      · cases isValue
  · exact (isLocal_map (literal flags char)).congr fun rest => by simp [item]

theorem isLocal_item : IsLocal tail (item flags) := .ofCons rfl (isLocal_item_cons flags)

/-- The set of one item. -/
def Item.alone : Item → CharSet
  | .char value => CharSet.single value
  | .set value => value

/-- The set of a range between two items, which have to be characters in their order. -/
def Item.to : Item → Item → Option CharSet
  | .char first, .char last =>
      if first.toNat ≤ last.toNat then some (CharSet.range first.toNat last.toNat) else none
  | _, _ => none

/-- A range behind its first item. -/
def rangeFrom (first : Item) (input : List Char) : Option (CharSet × List Char) :=
  match flags.skip input with
  | [] => none
  | '-' :: behind =>
      match flags.skip behind with
      | [] => none
      | ']' :: _ => some (first.alone, flags.skip input)
      | '-' :: _ => some (first.alone, flags.skip input)
      | behind => (item flags behind).bind fun read => (first.to read.1).map (·, read.2)
  | rest => some (first.alone, rest)

theorem range_eq (input : List Char) :
    range flags input = (item flags input).bind fun read => rangeFrom flags read.1 read.2 := by
  unfold range
  refine bind_congr fun read => ?_
  obtain ⟨first, behind⟩ := read
  dsimp only
  split
  next isEmpty => simp only [rangeFrom, isEmpty]
  next more isDash =>
    split
    next isEmpty => simp only [rangeFrom, isDash, isEmpty]
    next isBracket =>
      simp only [rangeFrom, isDash, isBracket]
      rfl
    next isSecond =>
      simp only [rangeFrom, isDash, isSecond]
      rfl
    next =>
      have isRange : rangeFrom flags first behind =
          (item flags (flags.skip more)).bind fun read => (first.to read.1).map (·, read.2) := by
        simp only [rangeFrom, isDash]
      rw [isRange]
      refine bind_congr fun read => ?_
      obtain ⟨last, rest⟩ := read
      cases first with
      | set => rfl
      | char first =>
          cases last with
          | set => rfl
          | char last =>
              simp only [Item.to]
              split <;> rfl
  next =>
    simp only [rangeFrom]
    rfl

theorem rangeFrom_isSuffix {first : Item} {input rest : List Char} {set : CharSet}
    (read : rangeFrom flags first input = some (set, rest)) : rest <:+ input := by
  have skipped := skip_isSuffix flags input
  unfold rangeFrom at read
  split at read
  next => cases read
  next behind isDash =>
    split at read
    next => cases read
    next =>
      cases read
      exact skipped
    next =>
      cases read
      exact skipped
    next =>
      rw [isDash] at skipped
      exact (((isLocal_item flags : IsLocal [] _).filterMap first.to).isSuffix read).trans
        ((skip_isSuffix flags behind).trans ((List.suffix_cons _ behind).trans skipped))
  next =>
    cases read
    exact skipped

/-- Where something is left, a range does not depend on what follows. -/
theorem rangeFrom_alone (noBracket : ']' ∉ tail) (noDash : '-' ∉ tail) {first : Item}
    {input rest : List Char} {set : CharSet} {char : Char}
    (read : rangeFrom flags first (input ++ tail) = some (set, char :: rest ++ tail)) :
    rangeFrom flags first input = some (set, char :: rest) := by
  -- An end of a class in front of the dash's second item is no part of what follows.
  have atEnd {behind more : List Char} {head : Char} (notInTail : head ∉ tail)
      (isDash : flags.skip (input ++ tail) = '-' :: behind)
      (isHead : flags.skip behind = head :: more)
      (isRest : flags.skip (input ++ tail) = char :: rest ++ tail) :
      char = '-' ∧ ∃ front, flags.skip rest = head :: front := by
    obtain ⟨rfl, rfl⟩ := List.cons.inj (isDash.symm.trans isRest)
    exact ⟨rfl, skip_head_alone flags notInTail isHead⟩
  unfold rangeFrom at read ⊢
  split at read
  next => cases read
  next behind isDash =>
    split at read
    next => cases read
    next isBracket =>
      obtain ⟨rfl, isRest⟩ := Prod.mk.inj (Option.some.inj read)
      obtain ⟨rfl, front, isFront⟩ := atEnd noBracket isDash isBracket isRest
      rw [skip_alone flags isRest]
      simp only [isFront]
    next isSecond =>
      obtain ⟨rfl, isRest⟩ := Prod.mk.inj (Option.some.inj read)
      obtain ⟨rfl, front, isFront⟩ := atEnd noDash isDash isSecond isRest
      rw [skip_alone flags isRest]
      simp only [isFront]
    next notEmpty notBracket notSecond =>
      have itemLocal : IsLocal tail _ := (isLocal_item flags).filterMap first.to
      obtain ⟨last, isLast⟩ := exists_append_of_isSuffix (itemLocal.isSuffix read)
      obtain ⟨front, rfl⟩ := exists_append_of_isSuffix (isLast ▸ skip_isSuffix flags behind)
      have isFront : flags.skip (input ++ tail) = '-' :: front ++ tail := isDash
      rw [isLast] at read
      have readAlone := itemLocal.alone read
      rw [skip_alone flags isFront]
      simp only [skip_alone flags isLast]
      split
      next => cases readAlone
      next more => exact absurd isLast (notBracket (more ++ tail))
      next more => exact absurd isLast (notSecond (more ++ tail))
      next => exact readAlone
  next notEmpty notDash =>
    obtain ⟨rfl, isRest⟩ := Prod.mk.inj (Option.some.inj read)
    rw [skip_alone flags isRest]
    split
    next isEmpty => cases isEmpty
    next more isDash =>
      rw [isDash] at isRest
      exact absurd isRest (notDash (more ++ tail))
    next => rfl

theorem range_isSuffix {input rest : List Char} {set : CharSet}
    (read : range flags input = some (set, rest)) : rest <:+ input := by
  rw [range_eq] at read
  obtain ⟨⟨first, behind⟩, readFirst, read⟩ := Option.bind_eq_some_iff.mp read
  exact (rangeFrom_isSuffix flags read).trans
    ((isLocal_item flags : IsLocal [] _).isSuffix readFirst)

theorem range_consumes {char : Char} {input rest : List Char} {set : CharSet}
    (read : range flags (char :: input) = some (set, rest)) : rest <:+ input := by
  rw [range_eq] at read
  obtain ⟨⟨first, behind⟩, readFirst, read⟩ := Option.bind_eq_some_iff.mp read
  exact (rangeFrom_isSuffix flags read).trans
    ((isLocal_item_cons flags char : IsLocal [] _).isSuffix readFirst)

theorem range_alone (noBracket : ']' ∉ tail) (noDash : '-' ∉ tail) {input rest : List Char}
    {set : CharSet} {char : Char}
    (read : range flags (input ++ tail) = some (set, char :: rest ++ tail)) :
    range flags input = some (set, char :: rest) := by
  rw [range_eq] at read ⊢
  obtain ⟨⟨first, behind⟩, readFirst, read⟩ := Option.bind_eq_some_iff.mp read
  obtain ⟨front, rfl⟩ := exists_append_of_isSuffix (rangeFrom_isSuffix flags read)
  rw [(isLocal_item flags).alone readFirst]
  exact rangeFrom_alone flags noBracket noDash read

/-! ## Classes -/

/-- The levels that are open behind an opening bracket within a class: a named class closes its
bracket itself. -/
def nested (outer : List Level) (level : Level) (input : List Char) :
    Option ((List Level × Level) × List Char) :=
  match named? flags input with
  | some (set, rest) => set.map fun set => ((outer, level.add set), rest)
  | none => (openLevel flags input).map fun (inner, rest) => ((level :: outer, inner), rest)

theorem nested_isSuffix {outer : List Level} {level : Level} {input rest : List Char}
    {levels : List Level × Level}
    (read : nested flags outer level input = some (levels, rest)) : rest <:+ input := by
  unfold nested at read
  split at read
  next set more isNamed =>
    obtain ⟨_, _, same⟩ := Option.map_eq_some_iff.mp read
    cases same
    exact named?_isSuffix flags isNamed
  next =>
    obtain ⟨_, isOpened, same⟩ := Option.map_eq_some_iff.mp read
    cases same
    exact openLevel_isSuffix flags isOpened

/-- Where something is left, a bracket within a class does not depend on what follows. -/
theorem nested_alone {outer : List Level} {level : Level} {input rest : List Char}
    {levels : List Level × Level} {char : Char}
    (read : nested flags outer level (input ++ tail) = some (levels, char :: rest ++ tail)) :
    nested flags outer level input = some (levels, char :: rest) := by
  unfold nested at read ⊢
  split at read
  next isNamed =>
    obtain ⟨value, isValue, same⟩ := Option.map_eq_some_iff.mp read
    obtain ⟨rfl, rfl⟩ := Prod.mk.inj same
    simp only [(named?_append_iff flags).mp isNamed, isValue]
    rfl
  next notNamed =>
    obtain ⟨⟨inner, more⟩, isOpened, same⟩ := Option.map_eq_some_iff.mp read
    obtain ⟨rfl, rfl⟩ := Prod.mk.inj same
    have isNone : named? flags input = none := by
      cases isNamed : named? flags input with
      | none => rfl
      | some found =>
          rw [(named?_append_iff flags).mpr isNamed] at notNamed
          cases notNamed
    simp only [isNone, openLevel_alone flags isOpened]
    rfl

/-- What one step of reading a class comes to: its set, or the levels that are open then. -/
inductive Progress where
  | closed (set : CharSet)
  | inside (outer : List Level) (level : Level)

/-- One step of reading a class. -/
def readStep (outer : List Level) (level : Level) (input : List Char) :
    Option (Progress × List Char) :=
  match flags.skip input with
  | [] => none
  | '[' :: rest =>
      (nested flags outer level rest).map fun ((outer, level), rest) => (.inside outer level, rest)
  | ']' :: rest =>
      (level.close flags).map fun set =>
        match outer with
        | [] => (.closed set, rest)
        | parent :: outer => (.inside outer (parent.add set), rest)
  | '&' :: '&' :: rest => some (.inside outer (level.wait flags .intersection), rest)
  | '-' :: '-' :: rest => some (.inside outer (level.wait flags .difference), rest)
  | '~' :: '~' :: rest => some (.inside outer (level.wait flags .symmetricDifference), rest)
  | input => (range flags input).map fun (set, rest) => (.inside outer (level.add set), rest)

theorem read_succ (fuel : Nat) (outer : List Level) (level : Level) (input : List Char) :
    read flags (fuel + 1) outer level input =
      (readStep flags outer level input).bind fun
        | (.closed set, rest) => some (set, rest)
        | (.inside outer level, rest) => read flags fuel outer level rest := by
  rw [read]
  split
  next isEmpty =>
    rw [readStep, isEmpty]
    rfl
  next rest isOpen =>
    simp only [readStep, isOpen, nested]
    rcases named? flags rest with _ | ⟨_ | set, rest⟩
    · cases openLevel flags rest <;> rfl
    · rfl
    · rfl
  next isClose =>
    rw [readStep, isClose]
    cases outer <;> cases level.close flags <;> rfl
  next isAnd =>
    rw [readStep, isAnd]
    rfl
  next isDash =>
    rw [readStep, isDash]
    rfl
  next isTilde =>
    rw [readStep, isTilde]
    rfl
  next =>
    simp only [readStep]
    cases range flags (flags.skip input) <;> rfl

/-- A step takes at least one character. -/
theorem readStep_isSuffix {outer : List Level} {level : Level} {input rest : List Char}
    {progress : Progress} (step : readStep flags outer level input = some (progress, rest)) :
    rest <:+ input ∧ rest.length < input.length := by
  have skipped := skip_isSuffix flags input
  unfold readStep at step
  split at step
  next => cases step
  next behind isOpen =>
    obtain ⟨_, isNested, same⟩ := Option.map_eq_some_iff.mp step
    cases same
    rw [isOpen] at skipped
    exact isSuffix_and_length_lt skipped (nested_isSuffix flags isNested)
  next behind isClose =>
    obtain ⟨_, _, same⟩ := Option.map_eq_some_iff.mp step
    rw [isClose] at skipped
    refine isSuffix_and_length_lt skipped ?_
    cases outer <;> cases same <;> exact List.suffix_rfl
  next behind isAnd =>
    cases step
    rw [isAnd] at skipped
    exact isSuffix_and_length_lt skipped (List.suffix_cons '&' rest)
  next behind isDash =>
    cases step
    rw [isDash] at skipped
    exact isSuffix_and_length_lt skipped (List.suffix_cons '-' rest)
  next behind isTilde =>
    cases step
    rw [isTilde] at skipped
    exact isSuffix_and_length_lt skipped (List.suffix_cons '~' rest)
  next notEmpty _ _ _ _ _ =>
    obtain ⟨_, readRange, same⟩ := Option.map_eq_some_iff.mp step
    cases same
    cases isFront : flags.skip input with
    | nil => exact absurd isFront notEmpty
    | cons char front =>
        rw [isFront] at skipped readRange
        exact isSuffix_and_length_lt skipped (range_consumes flags readRange)

/-- A step does not depend on what follows, where something is left or the class ends. -/
theorem readStep_alone (noBracket : ']' ∉ tail) (noDash : '-' ∉ tail) {outer : List Level}
    {level : Level} {input rest : List Char} {progress : Progress}
    (step : readStep flags outer level (input ++ tail) = some (progress, rest ++ tail))
    (isLeft : rest = [] → ∃ set, progress = .closed set) :
    readStep flags outer level input = some (progress, rest) := by
  unfold readStep at step ⊢
  split at step
  next => cases step
  next behind isOpen =>
    obtain ⟨⟨⟨opened, inner⟩, more⟩, isNested, same⟩ := Option.map_eq_some_iff.mp step
    obtain ⟨rfl, rfl⟩ := Prod.mk.inj same
    obtain ⟨front, rfl⟩ := exists_append_of_isSuffix (nested_isSuffix flags isNested)
    have isFront : flags.skip (input ++ tail) = '[' :: front ++ tail := isOpen
    cases rest with
    | nil => exact (isLeft rfl).elim nofun
    | cons char rest =>
        rw [skip_alone flags isFront]
        simp only [nested_alone flags isNested]
        rfl
  next behind isClose =>
    obtain ⟨set, isClosed, same⟩ := Option.map_eq_some_iff.mp step
    have isRest : behind = rest ++ tail := by cases outer <;> exact congrArg Prod.snd same
    rw [isRest] at isClose same
    have isFront : flags.skip (input ++ tail) = ']' :: rest ++ tail := isClose
    rw [skip_alone flags isFront]
    simp only [isClosed]
    cases outer <;> exact congrArg (fun read => some (Prod.mk read.1 rest)) same
  next isAnd =>
    obtain ⟨rfl, rfl⟩ := Prod.mk.inj (Option.some.inj step)
    have isFront : flags.skip (input ++ tail) = '&' :: '&' :: rest ++ tail := isAnd
    rw [skip_alone flags isFront]
    rfl
  next isDash =>
    obtain ⟨rfl, rfl⟩ := Prod.mk.inj (Option.some.inj step)
    have isFront : flags.skip (input ++ tail) = '-' :: '-' :: rest ++ tail := isDash
    rw [skip_alone flags isFront]
    rfl
  next isTilde =>
    obtain ⟨rfl, rfl⟩ := Prod.mk.inj (Option.some.inj step)
    have isFront : flags.skip (input ++ tail) = '~' :: '~' :: rest ++ tail := isTilde
    rw [skip_alone flags isFront]
    rfl
  next notEmpty notOpen notClose notAnd notDash notTilde =>
    obtain ⟨⟨set, more⟩, readRange, same⟩ := Option.map_eq_some_iff.mp step
    obtain ⟨rfl, rfl⟩ := Prod.mk.inj same
    cases rest with
    | nil => exact (isLeft rfl).elim nofun
    | cons char rest =>
        obtain ⟨front, isFront⟩ := exists_append_of_isSuffix (range_isSuffix flags readRange)
        rw [isFront] at readRange notOpen notClose notAnd notDash notTilde
        rw [skip_alone flags isFront]
        have readAlone := range_alone flags noBracket noDash readRange
        split
        next => cases readAlone
        next more => exact absurd rfl (notOpen (more ++ tail))
        next more => exact absurd rfl (notClose (more ++ tail))
        next more => exact absurd rfl (notAnd (more ++ tail))
        next more => exact absurd rfl (notDash (more ++ tail))
        next more => exact absurd rfl (notTilde (more ++ tail))
        next =>
          rw [readAlone]
          rfl

theorem read_isSuffix {fuel : Nat} {outer : List Level} {level : Level} {input rest : List Char}
    {set : CharSet} (reads : read flags fuel outer level input = some (set, rest)) :
    rest <:+ input ∧ rest.length < input.length := by
  induction fuel generalizing outer level input with
  | zero => cases reads
  | succ fuel ih =>
      rw [read_succ] at reads
      obtain ⟨⟨progress, behind⟩, step, reads⟩ := Option.bind_eq_some_iff.mp reads
      have stepped := readStep_isSuffix flags step
      cases progress with
      | closed set =>
          cases reads
          exact stepped
      | inside outer level =>
          have readRest := ih reads
          exact ⟨readRest.1.trans stepped.1, readRest.2.trans stepped.2⟩

theorem isLocal_read (noBracket : ']' ∉ tail) (noDash : '-' ∉ tail) (fuel : Nat)
    (outer : List Level) (level : Level) : IsLocal tail (read flags fuel outer level) := by
  refine ⟨fun reads => (read_isSuffix flags reads).1, fun {input value rest} reads => ?_⟩
  induction fuel generalizing outer level input with
  | zero => cases reads
  | succ fuel ih =>
      rw [read_succ] at reads ⊢
      obtain ⟨⟨progress, behind⟩, step, reads⟩ := Option.bind_eq_some_iff.mp reads
      cases progress with
      | closed set =>
          obtain ⟨rfl, rfl⟩ := Prod.mk.inj (Option.some.inj reads)
          rw [readStep_alone flags noBracket noDash step fun _ => ⟨set, rfl⟩]
          rfl
      | inside outer level =>
          obtain ⟨isSuffix, shorter⟩ := read_isSuffix flags reads
          obtain ⟨front, rfl⟩ := exists_append_of_isSuffix isSuffix
          rw [readStep_alone flags noBracket noDash step]
          · exact ih outer level reads
          · -- A class that is still open takes one more character from what is left.
            rintro rfl
            rw [List.length_append, List.nil_append] at shorter
            omega

/-- With a step for every character more steps read the same. -/
theorem read_of_enough {fuel needed : Nat} {outer : List Level} {level : Level}
    {input : List Char} {result : CharSet × List Char}
    (reads : read flags fuel outer level input = some result) (enough : input.length < needed) :
    read flags needed outer level input = some result := by
  induction fuel generalizing needed outer level input with
  | zero => cases reads
  | succ fuel ih =>
      obtain ⟨needed, rfl⟩ := Nat.exists_eq_succ_of_ne_zero (Nat.ne_zero_of_lt enough)
      rw [read_succ] at reads ⊢
      obtain ⟨⟨progress, behind⟩, step, reads⟩ := Option.bind_eq_some_iff.mp reads
      have shorter := (readStep_isSuffix flags step).2
      rw [step]
      cases progress with
      | closed set => exact reads
      | inside outer level => exact ih reads (by omega)

/-- A bracketed class does not depend on what follows it. -/
theorem isLocal_ofInput (noBracket : ']' ∉ tail) (noDash : '-' ∉ tail) :
    IsLocal tail (ofInput flags) where
  isSuffix result := by
    obtain ⟨⟨level, behind⟩, isOpened, reads⟩ := Option.bind_eq_some_iff.mp result
    exact (read_isSuffix flags reads).1.trans (openLevel_isSuffix flags isOpened)
  alone {input _ rest} result := by
    obtain ⟨⟨level, behind⟩, isOpened, reads⟩ := Option.bind_eq_some_iff.mp result
    obtain ⟨isSuffix, shorter⟩ := read_isSuffix flags reads
    obtain ⟨front, rfl⟩ := exists_append_of_isSuffix isSuffix
    cases front with
    | nil =>
        rw [List.length_append, List.nil_append] at shorter
        omega
    | cons char front =>
        have openedAlone := openLevel_alone flags isOpened
        have fits := (openLevel_isSuffix flags openedAlone).length_le
        unfold ofInput
        rw [openedAlone]
        exact read_of_enough flags ((isLocal_read flags noBracket noDash _ _ _).alone reads)
          (by omega)

end Tenancy.Regex.Bracket
