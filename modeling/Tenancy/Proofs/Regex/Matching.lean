import Mathlib.Data.Finset.Card
import Mathlib.Data.Nat.Bitwise
import Mathlib.Tactic.Common
import Tenancy.Regex.Matching

/-!
# What regular expressions match

A regular expression matches the part of a text between two places if its form says so.  The
sets of places that a matcher computes are those that can be reached this way, so a pattern is
found in a text exactly if it matches some part of it.
-/

namespace Tenancy.Regex

/-! ## Meaning -/

/-- A relation between places holds a number of times in a row. -/
def Times (relation : Nat → Nat → Prop) : Nat → Nat → Nat → Prop
  | 0, start, stop => stop = start
  | count + 1, start, stop => ∃ middle, relation start middle ∧ Times relation count middle stop

/-- The character in front of a place. -/
def charBefore (text : List Char) : Nat → Option Char
  | 0 => none
  | place + 1 => text[place]?

/-- A regular expression matches the part of a text from one place to another.  A repetition
whose greatest number is below its least one takes the least one. -/
def Spans (text : List Char) : Regex → Nat → Nat → Prop
  | .empty, start, stop => stop = start
  | .one set, start, stop =>
      stop = start + 1 ∧ ∃ char, text[start]? = some char ∧ set.holds char.toNat = true
  | .look condition, start, stop =>
      stop = start ∧ start ≤ text.length ∧
        condition.holds (charBefore text start) text[start]? = true
  | .seq first second, start, stop =>
      ∃ middle, first.Spans text start middle ∧ second.Spans text middle stop
  | .either first second, start, stop =>
      first.Spans text start stop ∨ second.Spans text start stop
  | .repeated body least most, start, stop =>
      ∃ count, least ≤ count ∧ (∀ limit, most = some limit → count ≤ max least limit) ∧
        Times (body.Spans text) count start stop

/-- A regular expression matches a text from its beginning to its end. -/
def MatchesWhole (regex : Regex) (text : String) : Prop :=
  regex.Spans text.toList 0 text.toList.length

/-! ## Sets of places -/

/-- No place of a set is behind the last one. -/
def Within (last places : Nat) : Prop := ∀ place, places.testBit place = true → place ≤ last

/-- A step takes every set of places to the places that a relation leads to from them, none of
which is behind the last one. -/
structure Realizes (last : Nat) (step : Nat → Nat) (relation : Nat → Nat → Prop) : Prop where
  reaches : ∀ places, Within last places → ∀ stop,
    (step places).testBit stop = true ↔
      ∃ start, places.testBit start = true ∧ relation start stop
  within : ∀ start stop, start ≤ last → relation start stop → stop ≤ last

section Steps

variable {last : Nat} {step : Nat → Nat} {relation : Nat → Nat → Prop}

theorem Realizes.within_step (realizes : Realizes last step relation) {places : Nat}
    (within : Within last places) : Within last (step places) := by
  intro stop reached
  obtain ⟨start, member, related⟩ := (realizes.reaches places within stop).mp reached
  exact realizes.within start stop (within start member) related

theorem Within.or {first second : Nat} (firstWithin : Within last first)
    (secondWithin : Within last second) : Within last (first ||| second) := by
  intro place member
  rw [Nat.testBit_or, Bool.or_eq_true] at member
  exact member.elim (firstWithin place) (secondWithin place)

/-- A number of steps realizes a relation that number of times in a row. -/
theorem Realizes.iterate (realizes : Realizes last step relation) (count : Nat) :
    Realizes last (iterate step count) (Times relation count) := by
  induction count with
  | zero =>
      refine ⟨fun places _ stop => ?_, fun start stop isWithin same => same ▸ isWithin⟩
      rw [Regex.iterate]
      constructor
      · exact fun member => ⟨stop, member, rfl⟩
      · rintro ⟨start, member, same⟩
        rw [same]
        exact member
  | succ count ih =>
      refine ⟨fun places within stop => ?_, ?_⟩
      · rw [Regex.iterate]
        split
        next isEmpty => simp [isEmpty]
        next =>
          rw [ih.reaches _ (realizes.within_step within)]
          constructor
          · rintro ⟨middle, reached, rest⟩
            obtain ⟨start, member, related⟩ := (realizes.reaches places within middle).mp reached
            exact ⟨start, member, middle, related, rest⟩
          · rintro ⟨start, member, middle, related, rest⟩
            exact ⟨middle, (realizes.reaches places within middle).mpr ⟨start, member, related⟩,
              rest⟩
      · rintro start stop isWithin ⟨middle, related, rest⟩
        exact ih.within middle stop (realizes.within start middle isWithin related) rest

/-- The places that are collected are reached by at most the given number of steps. -/
theorem Realizes.testBit_collect (realizes : Realizes last step relation) (count : Nat)
    {places : Nat} (within : Within last places) (collected stop : Nat) :
    (collect step count places collected).testBit stop = true ↔
      collected.testBit stop = true ∨
        ∃ steps, 0 < steps ∧ steps ≤ count ∧
          ∃ start, places.testBit start = true ∧ Times relation steps start stop := by
  induction count generalizing places collected with
  | zero =>
      rw [collect]
      refine ⟨.inl, ?_⟩
      rintro (member | ⟨steps, some, none, _⟩)
      · exact member
      · omega
  | succ count ih =>
      have stepWithin := realizes.within_step within
      have reachesStep (middle : Nat) := realizes.reaches places within middle
      rw [collect]
      split
      next isEmpty =>
        refine ⟨.inl, ?_⟩
        rintro (member | ⟨steps, some, _, start, member, reached⟩)
        · exact member
        · obtain ⟨steps, rfl⟩ := Nat.exists_eq_succ_of_ne_zero some.ne'
          obtain ⟨middle, related, _⟩ := reached
          have inNone := (reachesStep middle).mpr ⟨start, member, related⟩
          rw [isEmpty, Nat.zero_testBit] at inNone
          cases inNone
      next =>
        rw [ih stepWithin, Nat.testBit_or, Bool.or_eq_true, or_assoc]
        refine or_congr_right ?_
        constructor
        · rintro (reached | ⟨steps, some, fits, middle, reached, rest⟩)
          · obtain ⟨start, member, related⟩ := (reachesStep stop).mp reached
            exact ⟨1, by omega, by omega, start, member, stop, related, rfl⟩
          · obtain ⟨start, member, related⟩ := (reachesStep middle).mp reached
            exact ⟨steps + 1, by omega, by omega, start, member, middle, related, rest⟩
        · rintro ⟨steps, some, fits, start, member, reached⟩
          obtain ⟨steps, rfl⟩ := Nat.exists_eq_succ_of_ne_zero some.ne'
          obtain ⟨middle, related, rest⟩ := reached
          have inStep := (reachesStep middle).mpr ⟨start, member, related⟩
          rcases Nat.eq_zero_or_pos steps with rfl | more
          · rw [rest]
            exact .inl inStep
          · exact .inr ⟨steps, more, by omega, middle, inStep, rest⟩

/-- The places up to the last one that are not in a set. -/
def missing (last places : Nat) : Finset Nat :=
  (Finset.range (last + 1)).filter fun place => places.testBit place = false

theorem card_missing_or_lt {places more : Nat} (within : Within last more)
    (grows : places ||| more ≠ places) :
    (missing last (places ||| more)).card < (missing last places).card := by
  apply Finset.card_lt_card
  constructor
  · intro place member
    simp only [missing, Finset.mem_filter, Nat.testBit_or, Bool.or_eq_false_iff] at member ⊢
    exact ⟨member.1, member.2.1⟩
  · intro contained
    apply grows
    apply Nat.eq_of_testBit_eq
    intro place
    rw [Nat.testBit_or]
    cases isOld : places.testBit place with
    | true => rfl
    | false =>
        cases isNew : more.testBit place with
        | false => rfl
        | true =>
            have isMissing : place ∈ missing last places := by
              simp only [missing, Finset.mem_filter, Finset.mem_range]
              exact ⟨by have := within place isNew; omega, isOld⟩
            have stillMissing := contained isMissing
            simp only [missing, Finset.mem_filter, Nat.testBit_or, isNew,
              Bool.or_true] at stillMissing
            cases stillMissing.2

/-- With a step for every place that is missing a closure keeps its places, is closed under
steps and holds nothing that steps do not lead to. -/
theorem Realizes.closure (realizes : Realizes last step relation) {fuel places : Nat}
    (within : Within last places) (enough : (missing last places).card ≤ fuel) :
    (∀ place, places.testBit place = true →
        (Regex.closure step fuel places).testBit place = true) ∧
      (∀ place, (step (Regex.closure step fuel places)).testBit place = true →
        (Regex.closure step fuel places).testBit place = true) ∧
      ∀ stop, (Regex.closure step fuel places).testBit stop = true →
        ∃ start, places.testBit start = true ∧ ∃ steps, Times relation steps start stop := by
  have unmoved (stop : Nat) (member : places.testBit stop = true) :
      ∃ start, places.testBit start = true ∧ ∃ steps, Times relation steps start stop :=
    ⟨stop, member, 0, rfl⟩
  have stepWithin := realizes.within_step within
  induction fuel generalizing places with
  | zero =>
      rw [Regex.closure]
      refine ⟨fun _ => id, fun place reached => ?_, unmoved⟩
      by_contra notMember
      have isMissing : place ∈ missing last places := by
        simp only [missing, Finset.mem_filter, Finset.mem_range, Bool.not_eq_true] at notMember ⊢
        exact ⟨by have := stepWithin place reached; omega, notMember⟩
      rw [Nat.le_zero, Finset.card_eq_zero] at enough
      rw [enough] at isMissing
      cases isMissing
  | succ fuel ih =>
      rw [Regex.closure]
      split
      next same =>
        refine ⟨fun _ => id, fun place reached => ?_, unmoved⟩
        rw [← same, Nat.testBit_or, reached, Bool.or_true]
      next grows =>
        -- Every further round adds a place, so the rounds do not run out.
        have fewer := card_missing_or_lt stepWithin grows
        have nextWithin := within.or stepWithin
        obtain ⟨keeps, isClosed, sound⟩ := ih nextWithin (by omega)
          (fun stop member => ⟨stop, member, 0, rfl⟩) (realizes.within_step nextWithin)
        refine ⟨fun place member => keeps place ?_, isClosed, fun stop member => ?_⟩
        · rw [Nat.testBit_or, member, Bool.true_or]
        · obtain ⟨middle, reached, steps, rest⟩ := sound stop member
          rw [Nat.testBit_or, Bool.or_eq_true] at reached
          rcases reached with isOld | isNew
          · exact ⟨middle, isOld, steps, rest⟩
          · obtain ⟨start, isOld, related⟩ := (realizes.reaches places within middle).mp isNew
            exact ⟨start, isOld, steps + 1, middle, related, rest⟩

/-- A closure holds the places that any number of steps leads to. -/
theorem Realizes.testBit_closure (realizes : Realizes last step relation) {places : Nat}
    (within : Within last places) (stop : Nat) :
    (Regex.closure step (last + 1) places).testBit stop = true ↔
      ∃ start, places.testBit start = true ∧ ∃ steps, Times relation steps start stop := by
  have enough : (missing last places).card ≤ last + 1 := by
    refine (Finset.card_filter_le _ _).trans ?_
    rw [Finset.card_range]
  obtain ⟨keeps, isClosed, sound⟩ := realizes.closure within enough
  refine ⟨sound stop, ?_⟩
  rintro ⟨start, member, steps, reached⟩
  have allWithin : Within last (Regex.closure step (last + 1) places) := by
    intro place inClosure
    obtain ⟨first, isFirst, count, leads⟩ := sound place inClosure
    exact (realizes.iterate count).within first place (within first isFirst) leads
  have fromStart := keeps start member
  clear member
  induction steps generalizing start with
  | zero =>
      obtain rfl : stop = start := reached
      exact fromStart
  | succ steps ih =>
      obtain ⟨middle, related, rest⟩ := reached
      exact ih middle rest (isClosed middle
        ((realizes.reaches _ allWithin middle).mpr ⟨start, fromStart, related⟩))

/-- A relation that holds a number of times in a row does so in two parts. -/
theorem times_add_iff (first second start stop : Nat) :
    Times relation (first + second) start stop ↔
      ∃ middle, Times relation first start middle ∧ Times relation second middle stop := by
  induction first generalizing start with
  | zero =>
      rw [Nat.zero_add]
      constructor
      · exact fun reached => ⟨start, rfl, reached⟩
      · rintro ⟨middle, same, reached⟩
        rwa [same] at reached
  | succ first ih =>
      rw [Nat.succ_add]
      constructor
      · rintro ⟨next, related, reached⟩
        obtain ⟨middle, front, behind⟩ := (ih next).mp reached
        exact ⟨middle, ⟨next, related, front⟩, behind⟩
      · rintro ⟨middle, ⟨next, related, front⟩, behind⟩
        exact ⟨next, related, (ih next).mpr ⟨middle, front, behind⟩⟩

end Steps

/-! ## Matching -/

theorem testBit_cons (first : Bool) (rest place : Nat) :
    ((if first then 1 else 0) + 2 * rest).testBit place =
      match place with
      | 0 => first
      | place + 1 => rest.testBit place := by
  have isBit : (if first then 1 else 0) + 2 * rest = Nat.bit first rest := by
    cases first <;> simp [Nat.bit_val, Nat.add_comm]
  rw [isBit]
  cases place with
  | zero => exact Nat.testBit_bit_zero first rest
  | succ place => exact Nat.testBit_bit_succ place first rest

theorem testBit_placesOf (set : CharSet) (text : List Char) (place : Nat) :
    (placesOf set text).testBit place = true ↔
      ∃ char, text[place]? = some char ∧ set.holds char.toNat = true := by
  induction text generalizing place with
  | nil => simp [placesOf]
  | cons char rest ih =>
      rw [placesOf, testBit_cons]
      cases place with
      | zero => simp
      | succ place => simpa using ih place

theorem testBit_placesWhere (look : Look) (before : Option Char) (text : List Char)
    (place : Nat) :
    (placesWhere look before text).testBit place = true ↔
      place ≤ text.length ∧
        look.holds (match place with | 0 => before | place + 1 => text[place]?)
          text[place]? = true := by
  induction text generalizing before place with
  | nil =>
      have asCons : placesWhere look before [] =
          (if look.holds before none then 1 else 0) + 2 * 0 :=
        rfl
      rw [asCons, testBit_cons]
      cases place <;> simp
  | cons char rest ih =>
      rw [placesWhere, testBit_cons]
      cases place with
      | zero => simp
      | succ place =>
          rw [ih]
          cases place <;> simp

variable {text : List Char}

theorem realizes_one (set : CharSet) :
    Realizes text.length (ends text (.one set)) (Spans text (.one set)) where
  reaches places within stop := by
    rw [ends, Nat.testBit_shiftLeft, Bool.and_eq_true, decide_eq_true_iff, Nat.testBit_and,
      Bool.and_eq_true, testBit_placesOf]
    constructor
    · rintro ⟨behind, member, found⟩
      exact ⟨stop - 1, member, by omega, found⟩
    · rintro ⟨start, member, rfl, found⟩
      exact ⟨Nat.le_add_left 1 start, member, found⟩
  within start stop isWithin spans := by
    obtain ⟨rfl, char, found, _⟩ := spans
    exact (List.getElem?_eq_some_iff.mp found).1

theorem realizes_look (condition : Look) :
    Realizes text.length (ends text (.look condition)) (Spans text (.look condition)) where
  reaches places within stop := by
    have isBefore : (match stop with | 0 => none | place + 1 => text[place]?) =
        charBefore text stop := by
      cases stop <;> rfl
    rw [ends, Nat.testBit_and, Bool.and_eq_true, testBit_placesWhere, isBefore]
    constructor
    · rintro ⟨member, inText, holds⟩
      exact ⟨stop, member, rfl, inText, holds⟩
    · rintro ⟨start, member, rfl, inText, holds⟩
      exact ⟨member, inText, holds⟩
  within start stop isWithin spans := by
    obtain ⟨rfl, _⟩ := spans
    exact isWithin

section Parts

variable {first second body : Regex}

theorem Realizes.seq
    (firstRealizes : Realizes text.length (ends text first) (first.Spans text))
    (secondRealizes : Realizes text.length (ends text second) (second.Spans text)) :
    Realizes text.length (ends text (.seq first second)) (Spans text (.seq first second)) where
  reaches places within stop := by
    rw [ends, secondRealizes.reaches _ (firstRealizes.within_step within)]
    constructor
    · rintro ⟨middle, reached, behind⟩
      obtain ⟨start, member, front⟩ := (firstRealizes.reaches places within middle).mp reached
      exact ⟨start, member, middle, front, behind⟩
    · rintro ⟨start, member, middle, front, behind⟩
      exact ⟨middle, (firstRealizes.reaches places within middle).mpr ⟨start, member, front⟩,
        behind⟩
  within start stop isWithin spans := by
    obtain ⟨middle, front, behind⟩ := spans
    exact secondRealizes.within middle stop (firstRealizes.within start middle isWithin front)
      behind

theorem Realizes.either
    (firstRealizes : Realizes text.length (ends text first) (first.Spans text))
    (secondRealizes : Realizes text.length (ends text second) (second.Spans text)) :
    Realizes text.length (ends text (.either first second))
      (Spans text (.either first second)) where
  reaches places within stop := by
    rw [ends, Nat.testBit_or, Bool.or_eq_true, firstRealizes.reaches _ within,
      secondRealizes.reaches _ within, ← exists_or]
    exact exists_congr fun start => and_or_left.symm
  within start stop isWithin spans :=
    spans.elim (firstRealizes.within start stop isWithin)
      (secondRealizes.within start stop isWithin)

theorem Realizes.repeated (least : Nat) (most : Option Nat)
    (bodyRealizes : Realizes text.length (ends text body) (body.Spans text)) :
    Realizes text.length (ends text (.repeated body least most))
      (Spans text (.repeated body least most)) where
  reaches places within stop := by
    have begins := bodyRealizes.iterate least
    have begunWithin := begins.within_step within
    have reachesBegun (middle : Nat) := begins.reaches places within middle
    cases most with
    | none =>
        rw [ends]
        rw [bodyRealizes.testBit_closure begunWithin]
        constructor
        · rintro ⟨middle, reached, steps, behind⟩
          obtain ⟨start, member, front⟩ := (reachesBegun middle).mp reached
          exact ⟨start, member, least + steps, Nat.le_add_right _ _, nofun,
            (times_add_iff _ _ _ _).mpr ⟨middle, front, behind⟩⟩
        · rintro ⟨start, member, count, enough, _, reached⟩
          obtain ⟨steps, rfl⟩ := Nat.exists_eq_add_of_le enough
          obtain ⟨middle, front, behind⟩ := (times_add_iff _ _ _ _).mp reached
          exact ⟨middle, (reachesBegun middle).mpr ⟨start, member, front⟩, steps, behind⟩
    | some most =>
        rw [ends]
        rw [bodyRealizes.testBit_collect _ begunWithin]
        constructor
        · rintro (reached | ⟨steps, _, fits, middle, reached, behind⟩)
          · obtain ⟨start, member, front⟩ := (reachesBegun stop).mp reached
            refine ⟨start, member, least, le_rfl, fun limit _ => le_max_left _ _, front⟩
          · obtain ⟨start, member, front⟩ := (reachesBegun middle).mp reached
            refine ⟨start, member, least + steps, Nat.le_add_right _ _, ?_,
              (times_add_iff _ _ _ _).mpr ⟨middle, front, behind⟩⟩
            rintro limit ⟨⟩
            omega
        · rintro ⟨start, member, count, enough, fits, reached⟩
          have fitsMost := fits most rfl
          obtain ⟨steps, rfl⟩ := Nat.exists_eq_add_of_le enough
          obtain ⟨middle, front, behind⟩ := (times_add_iff _ _ _ _).mp reached
          have inBegun := (reachesBegun middle).mpr ⟨start, member, front⟩
          rcases Nat.eq_zero_or_pos steps with rfl | some
          · obtain rfl : stop = middle := behind
            exact .inl inBegun
          · exact .inr ⟨steps, some, by omega, middle, inBegun, behind⟩
  within start stop isWithin spans := by
    obtain ⟨count, _, _, reached⟩ := spans
    exact (bodyRealizes.iterate count).within start stop isWithin reached

end Parts

/-- A matcher reaches the places that its pattern leads to. -/
theorem realizes_ends (regex : Regex) :
    Realizes text.length (ends text regex) (regex.Spans text) := by
  induction regex with
  | empty =>
      exact ⟨fun places _ stop => by simp [ends, Spans],
        fun start stop isWithin same => same ▸ isWithin⟩
  | one set => exact realizes_one set
  | look condition => exact realizes_look condition
  | seq first second firstRealizes secondRealizes => exact firstRealizes.seq secondRealizes
  | either first second firstRealizes secondRealizes => exact firstRealizes.either secondRealizes
  | repeated body least most bodyRealizes => exact bodyRealizes.repeated least most

theorem testBit_allPlaces (place : Nat) :
    (allPlaces text).testBit place = true ↔ place ≤ text.length := by
  rw [allPlaces, Nat.pow_eq, Nat.testBit_two_pow_sub_one, decide_eq_true_iff, Nat.lt_succ_iff]

/-- A pattern is found in a text exactly if it matches a part of it. -/
theorem isMatch_iff (regex : Regex) (text : String) :
    regex.isMatch text = true ↔
      ∃ start stop, start ≤ text.toList.length ∧ regex.Spans text.toList start stop := by
  have allWithin : Within text.toList.length (allPlaces text.toList) :=
    fun place => (testBit_allPlaces place).mp
  have reaches (stop : Nat) := (realizes_ends regex).reaches _ allWithin stop
  rw [isMatch, bne_iff_ne]
  constructor
  · intro found
    obtain ⟨stop, member⟩ := Nat.exists_testBit_of_ne_zero found
    obtain ⟨start, inText, spans⟩ := (reaches stop).mp member
    exact ⟨start, stop, (testBit_allPlaces start).mp inText, spans⟩
  · rintro ⟨start, stop, inText, spans⟩ isNone
    have member := (reaches stop).mpr ⟨start, (testBit_allPlaces start).mpr inText, spans⟩
    rw [isNone, Nat.zero_testBit] at member
    cases member

/-- The condition on the beginning of a text holds at its first place only. -/
theorem spans_startText_iff {start stop : Nat} :
    Spans text (.look .startText) start stop ↔ start = 0 ∧ stop = 0 := by
  constructor
  · rintro ⟨rfl, inText, atStart⟩
    cases stop with
    | zero => exact ⟨rfl, rfl⟩
    | succ before =>
        have isChar := List.getElem?_eq_getElem (l := text) (show before < _ by omega)
        simp [Look.holds, charBefore, isChar] at atStart
  · rintro ⟨rfl, rfl⟩
    exact ⟨rfl, Nat.zero_le _, rfl⟩

/-- The condition on the end of a text holds at its last place only. -/
theorem spans_endText_iff {start stop : Nat} :
    Spans text (.look .endText) start stop ↔ start = text.length ∧ stop = text.length := by
  constructor
  · rintro ⟨rfl, inText, atEnd⟩
    have isEnd : text.length ≤ stop := by simpa [Look.holds] using atEnd
    exact ⟨le_antisymm inText isEnd, le_antisymm inText isEnd⟩
  · rintro ⟨rfl, rfl⟩
    exact ⟨rfl, le_rfl, by simp [Look.holds]⟩

/-- A pattern between the conditions on the ends of a text is found exactly if it matches the
whole text. -/
theorem isMatch_between_ends_iff (regex : Regex) (text : String) :
    (Regex.seq (.look .startText) (.seq regex (.look .endText))).isMatch text = true ↔
      regex.MatchesWhole text := by
  rw [isMatch_iff]
  constructor
  · rintro ⟨start, stop, _, begun, isBegun, ended, spans, isEnded⟩
    obtain ⟨_, rfl⟩ := spans_startText_iff.mp isBegun
    obtain ⟨rfl, _⟩ := spans_endText_iff.mp isEnded
    exact spans
  · intro spans
    exact ⟨0, text.toList.length, Nat.zero_le _, 0, spans_startText_iff.mpr ⟨rfl, rfl⟩,
      text.toList.length, spans, spans_endText_iff.mpr ⟨rfl, rfl⟩⟩

/-- The first of several patterns matches the beginning of what all of them match. -/
theorem spans_sequence_cons_iff {first : Regex} {others : List Regex} {start stop : Nat} :
    (sequence (first :: others)).Spans text start stop ↔
      ∃ middle, first.Spans text start middle ∧ (sequence others).Spans text middle stop := by
  cases others with
  | nil =>
      constructor
      · exact fun spans => ⟨stop, spans, rfl⟩
      · rintro ⟨middle, spans, rfl⟩
        exact spans
  | cons second others => exact Iff.rfl

/-- A set matches the first character of what is left of a text, if it has it. -/
theorem spans_one_iff {set : CharSet} {start stop : Nat} :
    (Regex.one set).Spans text start stop ↔
      ∃ char rest, text.drop start = char :: rest ∧ set.holds char.toNat = true ∧
        stop = start + 1 := by
  constructor
  · rintro ⟨isStop, char, found, holds⟩
    rw [← List.head?_drop] at found
    obtain ⟨rest, left⟩ := List.head?_eq_some_iff.mp found
    exact ⟨char, rest, left, holds, isStop⟩
  · rintro ⟨char, rest, left, holds, isStop⟩
    refine ⟨isStop, char, ?_, holds⟩
    rw [← List.head?_drop, left]
    rfl

end Tenancy.Regex
