import Mathlib.Data.List.TakeWhile
import Tenancy.Text.Blank

/-!
# Taking texts apart

A text is taken apart at the first mark in it, or freed of the blanks around it.  Both give
back the parts that it is put together from, as long as the first part has no mark in it, or
the part between the blanks none of them.
-/

namespace Tenancy

universe u

/-! ## The end of a run -/

section Run

variable {α : Type u} {test : α → Bool} {front rest : List α}

/-- A run ends in front of the first entry that is not like the others. -/
theorem takeWhile_append_rest (inside : ∀ entry ∈ front, test entry = true)
    (outside : ∀ entry ∈ rest.head?, test entry = false) :
    (front ++ rest).takeWhile test = front := by
  rw [List.takeWhile_append_of_pos inside]
  cases rest with
  | nil => simp
  | cons entry rest => simp [outside entry rfl]

theorem dropWhile_append_rest (inside : ∀ entry ∈ front, test entry = true)
    (outside : ∀ entry ∈ rest.head?, test entry = false) :
    (front ++ rest).dropWhile test = rest := by
  rw [List.dropWhile_append_of_pos inside]
  cases rest with
  | nil => rfl
  | cons entry rest => simp [outside entry rfl]

end Run

section Mark

variable {α : Type u} [DecidableEq α] {front : List α} {mark : α}

theorem decide_ne_mark (unmarked : mark ∉ front) :
    ∀ entry ∈ front, decide (entry ≠ mark) = true :=
  fun _ member => decide_eq_true fun same => unmarked (same ▸ member)

/-- In front of the first mark of a list stands what has no mark in it. -/
theorem takeWhile_append_mark (unmarked : mark ∉ front) (rest : List α) :
    (front ++ mark :: rest).takeWhile (· ≠ mark) = front :=
  takeWhile_append_rest (decide_ne_mark unmarked) (by simp)

theorem dropWhile_append_mark (unmarked : mark ∉ front) (rest : List α) :
    (front ++ mark :: rest).dropWhile (· ≠ mark) = mark :: rest :=
  dropWhile_append_rest (decide_ne_mark unmarked) (by simp)

end Mark

namespace Text

/-! ## Blanks around a text -/

/-- Some characters are all blank. -/
def AllBlank (chars : List Char) : Prop := ∀ char ∈ chars, isBlank char = true

theorem isBlank_eq_false_of_isDigit {char : Char} (isDigit : char.isDigit = true) :
    isBlank char = false := by
  obtain ⟨low, high⟩ : 48 ≤ char.toNat ∧ char.toNat ≤ 57 := Char.isDigit_iff_toNat.mp isDigit
  simp only [isBlank, Bool.or_eq_false_iff, Bool.and_eq_false_iff, decide_eq_false_iff_not,
    beq_eq_false_iff_ne]
  omega

/-- What trimming leaves stands between blanks. -/
theorem exists_eq_append_trim (chars : List Char) :
    ∃ before after, AllBlank before ∧ AllBlank after ∧ chars = before ++ trim chars ++ after := by
  refine ⟨chars.takeWhile isBlank,
    ((chars.dropWhile isBlank).reverse.takeWhile isBlank).reverse, ?_, ?_, ?_⟩
  · exact fun char member => List.mem_takeWhile_imp member
  · exact fun char member => List.mem_takeWhile_imp (List.mem_reverse.mp member)
  · have inner := congrArg List.reverse
      (List.takeWhile_append_dropWhile (p := isBlank) (l := (chars.dropWhile isBlank).reverse))
    rw [List.reverse_append, List.reverse_reverse] at inner
    rw [trim, List.append_assoc, inner, List.takeWhile_append_dropWhile]

/-- Blanks around characters of which none is blank are trimmed off. -/
theorem trim_append {before core after : List Char} (blankBefore : AllBlank before)
    (blankAfter : AllBlank after) (bare : ∀ char ∈ core, isBlank char = false) :
    trim (before ++ core ++ after) = core := by
  cases core with
  | nil =>
      have allBlank : AllBlank (before ++ [] ++ after) := by
        simpa [AllBlank, or_imp, forall_and] using ⟨blankBefore, blankAfter⟩
      rw [trim, List.dropWhile_eq_nil_iff.mpr allBlank]
      rfl
  | cons first others =>
      have firstBare := bare first List.mem_cons_self
      rw [trim, List.append_assoc, dropWhile_append_rest blankBefore (by simpa using firstBare),
        List.reverse_append, dropWhile_append_rest, List.reverse_reverse]
      · exact fun char member => blankAfter char (List.mem_reverse.mp member)
      · intro char isLast
        exact bare char (List.mem_reverse.mp (List.mem_of_mem_head? isLast))

end Text

end Tenancy
