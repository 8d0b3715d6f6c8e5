import Mathlib.Data.List.Forall2
import Tenancy.Glob

/-!
# What globs match

A text matches a glob exactly if it can be split into consecutive parts, one for each character
of the pattern and of the kind that the character asks for.  The table that a matcher fills
says of each end of the text whether it can be split so.
-/

namespace Tenancy

namespace Glob

/-! ## The meaning of a pattern -/

/-- A character of a pattern stands for a part of a text. -/
inductive StandsFor : Char → List Char → Prop
  | run {part : List Char} : (∀ char ∈ part, char ≠ '\n') → StandsFor '*' part
  | any {char : Char} : char ≠ '\n' → StandsFor '?' [char]
  | itself {char : Char} : char ≠ '*' → char ≠ '?' → StandsFor char [char]

/-- A text is made up of consecutive parts, one for each character of a pattern. -/
def Describes (pattern text : List Char) : Prop :=
  ∃ parts, List.Forall₂ StandsFor pattern parts ∧ parts.flatten = text

namespace Describes

theorem nil_iff {text : List Char} : Describes [] text ↔ text = [] := by
  simp [Describes, eq_comm]

/-- The first character of a pattern stands for the beginning of a text, and the others describe
what follows. -/
theorem cons_iff {char : Char} {pattern text : List Char} :
    Describes (char :: pattern) text ↔
      ∃ part rest, StandsFor char part ∧ Describes pattern rest ∧ part ++ rest = text := by
  constructor
  · rintro ⟨parts, stand, rfl⟩
    obtain ⟨part, others, isFirst, standOthers, rfl⟩ := List.forall₂_cons_left_iff.mp stand
    exact ⟨part, _, isFirst, ⟨others, standOthers, rfl⟩, rfl⟩
  · rintro ⟨part, _, isFirst, ⟨others, standOthers, rfl⟩, rfl⟩
    exact ⟨part :: others, .cons isFirst standOthers, rfl⟩

variable {pattern chars : List Char} {char : Char}

theorem run_nil_iff : Describes ('*' :: pattern) [] ↔ Describes pattern [] := by
  rw [cons_iff]
  constructor
  · rintro ⟨part, rest, -, describes, isEmpty⟩
    obtain ⟨rfl, rfl⟩ := List.append_eq_nil_iff.mp isEmpty
    exact describes
  · exact fun describes => ⟨[], [], .run (by simp), describes, rfl⟩

/-- A run takes nothing, or a character and goes on. -/
theorem run_cons_iff : Describes ('*' :: pattern) (char :: chars) ↔
    Describes pattern (char :: chars) ∨ char ≠ '\n' ∧ Describes ('*' :: pattern) chars := by
  rw [cons_iff]
  constructor
  · rintro ⟨part, rest, stands, describes, split⟩
    cases part with
    | nil => exact .inl (split ▸ describes)
    | cons first part =>
        obtain ⟨rfl, rfl⟩ := List.cons.inj split
        cases stands with
        | run noFeed =>
            obtain ⟨firstNoFeed, noFeed⟩ := List.forall_mem_cons.mp noFeed
            exact .inr ⟨firstNoFeed, cons_iff.mpr ⟨part, rest, .run noFeed, describes, rfl⟩⟩
        | itself notRun => exact absurd rfl notRun
  · rintro (describes | ⟨noFeed, describes⟩)
    · exact ⟨[], _, .run (by simp), describes, rfl⟩
    · obtain ⟨part, rest, stands, describesRest, rfl⟩ := cons_iff.mp describes
      cases stands with
      | run partNoFeed =>
          exact ⟨char :: part, rest, .run (List.forall_mem_cons.mpr ⟨noFeed, partNoFeed⟩),
            describesRest, rfl⟩
      | itself notRun => exact absurd rfl notRun

end Describes

/-! ## Pieces -/

variable {char : Char}

theorem ofChar_eq_exactly (notRun : char ≠ '*') (notAny : char ≠ '?') :
    Piece.ofChar char = .exactly char := by
  unfold Piece.ofChar
  split
  next => exact absurd rfl notRun
  next => exact absurd rfl notAny
  next => rfl

/-- A character other than an asterisk stands for one character. -/
theorem standsFor_iff (notRun : char ≠ '*') {part : List Char} :
    StandsFor char part ↔ ∃ taken, (Piece.ofChar char).takes taken = true ∧ part = [taken] := by
  by_cases isAny : char = '?'
  · subst isAny
    simp only [Piece.ofChar, Piece.takes, bne_iff_ne]
    constructor
    · intro stands
      cases stands with
      | any noFeed => exact ⟨_, noFeed, rfl⟩
      | itself _ notAny => exact absurd rfl notAny
    · rintro ⟨taken, noFeed, rfl⟩
      exact .any noFeed
  · simp only [ofChar_eq_exactly notRun isAny, Piece.takes, beq_iff_eq]
    constructor
    · intro stands
      cases stands with
      | run => exact absurd rfl notRun
      | any => exact absurd rfl isAny
      | itself => exact ⟨char, rfl, rfl⟩
    · rintro ⟨taken, rfl, rfl⟩
      exact .itself notRun isAny

theorem ofChar_ne_run (notRun : char ≠ '*') : Piece.ofChar char ≠ .run := by
  unfold Piece.ofChar
  split <;> simp_all

namespace Describes

variable {pattern chars : List Char}

theorem not_nil (notRun : char ≠ '*') : ¬Describes (char :: pattern) [] := by
  rw [cons_iff]
  rintro ⟨part, rest, stands, -, isEmpty⟩
  obtain ⟨taken, -, rfl⟩ := (standsFor_iff notRun).mp stands
  cases isEmpty

theorem take_cons_iff (notRun : char ≠ '*') {first : Char} :
    Describes (char :: pattern) (first :: chars) ↔
      (Piece.ofChar char).takes first = true ∧ Describes pattern chars := by
  rw [cons_iff]
  constructor
  · rintro ⟨part, rest, stands, describes, split⟩
    obtain ⟨taken, takes, rfl⟩ := (standsFor_iff notRun).mp stands
    obtain ⟨rfl, rfl⟩ := List.cons.inj split
    exact ⟨takes, describes⟩
  · rintro ⟨takes, describes⟩
    exact ⟨[first], chars, (standsFor_iff notRun).mpr ⟨first, takes, rfl⟩, describes, rfl⟩

end Describes

/-! ## Rows of the table -/

/-- A row has one entry for each end of a text, the text itself first and the empty one last, and
the entry says whether something holds of that end. -/
inductive Tabulates (holds : List Char → Prop) : List Char → List Bool → Prop
  | nil {entry : Bool} : (entry = true ↔ holds []) → Tabulates holds [] [entry]
  | cons {char : Char} {chars : List Char} {entry : Bool} {row : List Bool} :
      (entry = true ↔ holds (char :: chars)) → Tabulates holds chars row →
      Tabulates holds (char :: chars) (entry :: row)

namespace Tabulates

variable {chars pattern : List Char} {row : List Bool}

theorem headIsSet_iff {holds : List Char → Prop} (tabulates : Tabulates holds chars row) :
    headIsSet row = true ↔ holds chars := by
  cases tabulates with
  | nil entry_iff => exact entry_iff
  | cons entry_iff => exact entry_iff

theorem nilRow (chars : List Char) :
    Tabulates (Describes []) chars (chars.map (fun _ => false) ++ [true]) := by
  induction chars with
  | nil => exact .nil (by simp [Describes.nil_iff])
  | cons char chars ih => exact .cons (by simp [Describes.nil_iff]) ih

theorem runRow (tabulates : Tabulates (Describes pattern) chars row) :
    Tabulates (Describes ('*' :: pattern)) chars (Glob.runRow chars row) := by
  induction tabulates with
  | nil entry_iff => exact .nil (entry_iff.trans Describes.run_nil_iff.symm)
  | cons entry_iff _ ih =>
      refine .cons ?_ ih
      rw [Describes.run_cons_iff, ← entry_iff, ← ih.headIsSet_iff, Bool.or_eq_true,
        Bool.and_eq_true, bne_iff_ne]

theorem takeRow (notRun : char ≠ '*') (tabulates : Tabulates (Describes pattern) chars row) :
    Tabulates (Describes (char :: pattern)) chars
      (Glob.takeRow (Piece.ofChar char) chars row) := by
  induction tabulates with
  | nil => exact .nil (by simpa using Describes.not_nil notRun)
  | cons _ rest ih =>
      refine .cons ?_ ih
      rw [Describes.take_cons_iff notRun, ← rest.headIsSet_iff, Bool.and_eq_true]

end Tabulates

/-- The table is filled with what the ends of a pattern describe, from its last piece to its
first. -/
theorem tabulates_rows (chars pattern : List Char) :
    Tabulates (Describes pattern) chars (rows chars (pattern.map Piece.ofChar)) := by
  induction pattern with
  | nil => exact .nilRow chars
  | cons char pattern ih =>
      by_cases isRun : char = '*'
      · subst isRun
        exact ih.runRow
      · rw [List.map_cons, rows]
        · exact ih.takeRow isRun
        · exact ofChar_ne_run isRun

/-- A glob matches the texts that its pattern describes. -/
theorem isMatch_iff_describes (glob : Glob) (text : String) :
    glob.isMatch text = true ↔ Describes glob.pattern.toList text.toList :=
  (tabulates_rows text.toList glob.pattern.toList).headIsSet_iff

end Glob

/-- A glob matches exactly the texts that its pattern describes, and a list of globs those that
one of its patterns describes; none matches if there is no pattern. -/
theorem Globs.isMatch_exact :
    (∀ (pattern text : String),
        (Glob.mk pattern).isMatch text = true ↔ Glob.Describes pattern.toList text.toList) ∧
      (∀ (patterns : List String) (text : String),
        (ofPatterns patterns).isMatch text = true ↔
          ∃ pattern ∈ patterns, Glob.Describes pattern.toList text.toList) ∧
      ∀ text, (ofPatterns []).isMatch text = false := by
  refine ⟨fun pattern text => Glob.isMatch_iff_describes ⟨pattern⟩ text, fun patterns text => ?_,
    fun text => rfl⟩
  simp only [isMatch, ofPatterns, List.any_map, List.any_eq_true, Function.comp_apply,
    Glob.isMatch_iff_describes]

example : (Glob.mk "a*(b|?)").isMatch "a-.-(b|x)" = true := by decide

end Tenancy
