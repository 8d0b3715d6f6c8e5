import Tenancy.Json.Reader
import Tenancy.Proofs.Json.Number

/-!
# Reading written values

A value whose numbers are in range is read back from its text as the same value, up to the
decimals that its doubles are written with.
-/

namespace Tenancy.Json

/-- All numbers in a value are in range. -/
inductive InRange : Json → Prop
  | null : InRange .null
  | bool (value : Bool) : InRange (.bool value)
  | number {value : JsonNumber} : value.InRange → InRange (.number value)
  | text (value : String) : InRange (.text value)
  | array {elements : List Json} :
      (∀ element ∈ elements, InRange element) → InRange (.array elements)
  | object {members : List (String × Json)} :
      (∀ value ∈ members.map Prod.snd, InRange value) → InRange (.object members)

/-- Two values are the same up to the decimals that stand for their doubles. -/
inductive Same : Json → Json → Prop
  | null : Same .null .null
  | bool (value : Bool) : Same (.bool value) (.bool value)
  | number {value other : JsonNumber} : value.Same other → Same (.number value) (.number other)
  | text (value : String) : Same (.text value) (.text value)
  | array {elements others : List Json} :
      List.Forall₂ Same elements others → Same (.array elements) (.array others)
  | object {members others : List (String × Json)} :
      members.map Prod.fst = others.map Prod.fst →
        List.Forall₂ Same (members.map Prod.snd) (others.map Prod.snd) →
        Same (.object members) (.object others)

mutual

/-- How deep the arrays and objects of a value are nested. -/
def depth : Json → Nat
  | .array elements => depthElements elements + 1
  | .object members => depthMembers members + 1
  | _ => 0

/-- The depth of the deepest of some values. -/
def depthElements : List Json → Nat
  | [] => 0
  | value :: rest => max (depth value) (depthElements rest)

/-- The depth of the deepest value of some members. -/
def depthMembers : List (String × Json) → Nat
  | [] => 0
  | (_, value) :: rest => max (depth value) (depthMembers rest)

end

/-! ## Texts -/

section Texts

variable {rest read : List Char}

theorem hexDigit?_digitChar {digit : Nat} (small : digit < 16) :
    Text.hexDigit? digit.digitChar = some digit := by
  interval_cases digit <;> rfl

theorem hexUnit?_digitChar {unit : Nat} (small : unit < 256) (rest : List Char) :
    Reader.hexUnit? ('0' :: '0' :: (unit / 16).digitChar :: (unit % 16).digitChar :: rest) =
      some (unit, rest) := by
  have zero : Text.hexDigit? '0' = some 0 := rfl
  simp only [Reader.hexUnit?, zero, hexDigit?_digitChar (show unit / 16 < 16 by omega),
    hexDigit?_digitChar (show unit % 16 < 16 by omega), Option.bind_eq_bind, Option.bind_some,
    pure]
  congr 2
  omega

/-- The escape of a control character is read back. -/
theorem escaped?_control {char : Char} (isControl : char.toNat < 0x20) (rest : List Char) :
    Reader.escaped?
        ('u' :: '0' :: '0' :: (char.toNat / 16).digitChar :: (char.toNat % 16).digitChar :: rest) =
      some (char, rest) := by
  have isChar : Reader.unitChar? char.toNat rest = some (char, rest) := by
    have notHigh : ¬(0xD800 ≤ char.toNat) := by omega
    have notLow : ¬(0xDC00 ≤ char.toNat) := by omega
    simp [Reader.unitChar?, notHigh, notLow]
  change (Reader.hexUnit? ('0' :: '0' :: _)).bind _ = _
  rw [hexUnit?_digitChar (by omega), Option.bind_some]
  exact isChar

theorem textBody?_cons {char : Char} (noQuote : char ≠ '"') (noBackslash : char ≠ '\\')
    (notControl : ¬ char.toNat < 0x20) (fuel : Nat) :
    Reader.textBody? (fuel + 1) (char :: rest) read =
      Reader.textBody? fuel rest (char :: read) := by
  rw [Reader.textBody?, if_neg notControl]
  · exact noQuote
  · exact noBackslash

/-- A character that is written in a text is read back. -/
theorem textBody?_charText_append (char : Char) (fuel : Nat) :
    Reader.textBody? (fuel + 1) (Writer.charText char ++ rest) read =
      Reader.textBody? fuel rest (char :: read) := by
  unfold Writer.charText
  split
  next letter isNamed =>
    obtain ⟨front, back, parts, -⟩ := List.lookup_eq_some_iff.mp isNamed
    have named : (char, letter) ∈ Writer.namedEscapes := by simp [parts]
    simp only [Writer.namedEscapes, List.mem_cons, Prod.mk.injEq, List.not_mem_nil, or_false]
      at named
    rcases named with ⟨rfl, rfl⟩ | ⟨rfl, rfl⟩ | ⟨rfl, rfl⟩ | ⟨rfl, rfl⟩ | ⟨rfl, rfl⟩ | ⟨rfl, rfl⟩ |
      ⟨rfl, rfl⟩ <;> rfl
  next unnamed =>
    have noQuote : char ≠ '"' := by rintro rfl; cases unnamed
    have noBackslash : char ≠ '\\' := by rintro rfl; cases unnamed
    split
    next isControl =>
      change (Reader.escaped? ('u' :: '0' :: '0' :: _ :: _ :: rest)).bind _ = _
      rw [escaped?_control isControl, Option.bind_some]
    next notControl => exact textBody?_cons noQuote noBackslash notControl fuel

/-- A text is read back from the characters between its quotes. -/
theorem textBody?_append (text : List Char) {fuel : Nat} (enough : text.length < fuel) :
    Reader.textBody? fuel (text.flatMap Writer.charText ++ '"' :: rest) read =
      some (String.ofList (read.reverse ++ text), rest) := by
  induction text generalizing fuel read with
  | nil =>
      obtain ⟨fuel, rfl⟩ := Nat.exists_eq_add_one.mpr enough
      rw [List.append_nil]
      rfl
  | cons char text ih =>
      obtain ⟨fuel, rfl⟩ := Nat.exists_eq_add_one.mpr (Nat.zero_lt_of_lt enough)
      rw [List.flatMap_cons, List.append_assoc, textBody?_charText_append,
        ih (Nat.lt_of_succ_lt_succ enough), List.reverse_cons, List.append_assoc]
      rfl

theorem length_charText_pos (char : Char) : 0 < (Writer.charText char).length := by
  unfold Writer.charText
  split
  next => simp
  next => split <;> simp

theorem length_le_length_flatMap_charText (text : List Char) :
    text.length ≤ (text.flatMap Writer.charText).length := by
  induction text with
  | nil => exact Nat.zero_le _
  | cons char text ih =>
      have some := length_charText_pos char
      simp only [List.flatMap_cons, List.length_append, List.length_cons]
      omega

theorem toList_quote (text : String) :
    (Writer.quote text).toList = '"' :: (text.toList.flatMap Writer.charText ++ ['"']) := by
  rw [Writer.quote, String.toList_ofList]
  rfl

/-- A text between quotes is read back. -/
theorem textBody?_quote (text : String) (rest : List Char) {fuel : Nat}
    (enough : (Writer.quote text).length ≤ fuel + 1) :
    ∃ behind, (Writer.quote text).toList ++ rest = '"' :: behind ∧
      Reader.textBody? fuel behind [] = some (text, rest) := by
  have length := length_le_length_flatMap_charText text.toList
  rw [← String.length_toList, toList_quote] at enough
  simp only [List.length_cons, List.length_append, List.length_nil] at enough
  refine ⟨text.toList.flatMap Writer.charText ++ '"' :: rest, ?_, ?_⟩
  · simp [toList_quote]
  · rw [textBody?_append _ (by omega), List.reverse_nil, List.nil_append, String.ofList_toList]

end Texts

/-! ## Values -/

theorem depthElements_le_iff {elements : List Json} {depth : Nat} :
    depthElements elements ≤ depth ↔ ∀ element ∈ elements, element.depth ≤ depth := by
  induction elements with
  | nil => simp [depthElements]
  | cons element rest ih => simp [depthElements, ih]

theorem depthMembers_eq (members : List (String × Json)) :
    depthMembers members = depthElements (members.map Prod.snd) := by
  induction members with
  | nil => rfl
  | cons member rest ih => rw [depthMembers, ih]; rfl

/-- A value is read back from its text, with enough fuel and depth. -/
def ReadsBack (json : Json) : Prop :=
  ∀ fuel depth rest, 2 * json.render.length ≤ fuel → json.depth ≤ depth → EndsNumber rest →
    ∃ read, Reader.value? fuel depth (json.render.toList ++ rest) = some (read, rest) ∧
      Same read json

theorem wholeDigits?_of_not_isDigit {char : Char} (notDigit : char.isDigit = false)
    (rest : List Char) : Reader.wholeDigits? (char :: rest) = none := by
  unfold Reader.wholeDigits?
  split
  next isZero =>
    cases isZero
    cases notDigit
  next => simp [notDigit]

/-- A number starts with a sign or a digit. -/
theorem number?_eq_none {char : Char} (noSign : char ≠ '-') (notDigit : char.isDigit = false)
    (rest : List Char) : Reader.number? (char :: rest) = none := by
  unfold Reader.number?
  split
  next isRead =>
    split at isRead
    next isSign => exact absurd (List.cons.inj isSign).1 noSign
    next =>
      cases isRead
      rw [wholeDigits?_of_not_isDigit notDigit]
      rfl

theorem exists_cons_of_number? {input : List Char} {result : Json × List Char}
    (isRead : Reader.number? input = some result) :
    ∃ first behind, input = first :: behind ∧ (first = '-' ∨ first.isDigit = true) := by
  cases input with
  | nil => cases isRead
  | cons first behind =>
      refine ⟨first, behind, rfl, ?_⟩
      by_contra neither
      obtain ⟨noSign, notDigit⟩ := not_or.mp neither
      rw [number?_eq_none noSign (by simpa using notDigit)] at isRead
      cases isRead

theorem skipSpace_cons {char : Char} (noBlank : Reader.isSpace char = false) (rest : List Char) :
    Reader.skipSpace (char :: rest) = char :: rest := by
  rw [Reader.skipSpace, List.dropWhile_cons_of_neg (by simp [noBlank])]

theorem isSpace_eq_false {char : Char} (opens : char = '-' ∨ char.isDigit = true) :
    Reader.isSpace char = false := by
  by_contra blank
  simp only [Reader.isSpace, Bool.not_eq_false, Bool.or_eq_true, beq_iff_eq] at blank
  rcases blank with ((rfl | rfl) | rfl) | rfl <;> exact absurd opens (by decide)

/-- What is read as a number is read as a value. -/
theorem value?_of_number? {input : List Char} {result : Json × List Char}
    (isRead : Reader.number? input = some result) (fuel depth : Nat) :
    Reader.value? (fuel + 1) depth input = some result := by
  obtain ⟨first, behind, rfl, opens⟩ := exists_cons_of_number? isRead
  have other {char : Char} {rest : List Char} (isCons : first :: behind = char :: rest)
      (neither : ¬(char = '-' ∨ char.isDigit = true)) : False :=
    neither ((List.cons.inj isCons).1 ▸ opens)
  unfold Reader.value?
  dsimp only
  rw [skipSpace_cons (isSpace_eq_false opens)]
  split
  next isText => exact (other isText (by decide)).elim
  next isArray => exact (other isArray (by decide)).elim
  next isObject => exact (other isObject (by decide)).elim
  next isNull => exact (other isNull (by decide)).elim
  next isTrue => exact (other isTrue (by decide)).elim
  next isFalse => exact (other isFalse (by decide)).elim
  next => exact isRead

/-- The text of a value does not start with a blank or end an array. -/
theorem InRange.exists_cons {json : Json} (inRange : json.InRange) :
    ∃ first behind, json.render.toList = first :: behind ∧ Reader.isSpace first = false ∧
      first ≠ ']' := by
  cases inRange with
  | null => exact ⟨_, _, rfl, rfl, by decide⟩
  | bool value => cases value <;> exact ⟨_, _, rfl, rfl, by decide⟩
  | @number value inRange =>
      obtain ⟨read, isRead, -⟩ := number?_numberText inRange EndsNumber.nil
      rw [List.append_nil] at isRead
      obtain ⟨first, behind, isCons, opens⟩ := exists_cons_of_number? isRead
      refine ⟨first, behind, isCons, isSpace_eq_false opens, ?_⟩
      rintro rfl
      exact absurd opens (by decide)
  | text value => exact ⟨_, _, toList_quote value, rfl, by decide⟩
  | @array elements _ =>
      cases elements with
      | nil => exact ⟨_, _, rfl, rfl, by decide⟩
      | cons first rest =>
          refine ⟨'[', (first.render ++ renderElements rest).toList, ?_, rfl, by decide⟩
          simp [render]
  | @object members _ =>
      cases members with
      | nil => exact ⟨_, _, rfl, rfl, by decide⟩
      | cons member rest =>
          refine ⟨'\x7b', (Writer.quote member.1 ++ ":" ++ member.2.render ++
            renderMembers rest).toList, ?_, rfl, by decide⟩
          simp [render]

/-! ## Arrays -/

section Elements

variable {first : Json} {others : List Json} {read : Json} {input rest : List Char}
  {fuel depth : Nat}

theorem elements?_of_last (isRead : Reader.value? fuel depth input = some (read, ']' :: rest)) :
    Reader.elements? (fuel + 1) depth input = some ([read], rest) := by
  rw [Reader.elements?, isRead]
  rfl

theorem elements?_of_more {behind : List Char} {reads : List Json}
    (isRead : Reader.value? fuel depth input = some (read, ',' :: behind))
    (areRead : Reader.elements? fuel depth behind = some (reads, rest)) :
    Reader.elements? (fuel + 1) depth input = some (read :: reads, rest) := by
  rw [Reader.elements?, isRead]
  change (Reader.elements? fuel depth behind).bind _ = _
  rw [areRead]
  rfl

theorem toList_render_array (value : Json) (rest : List Json) :
    (render (.array (value :: rest))).toList =
      '[' :: (value.render ++ renderElements rest).toList := by
  simp [render]

theorem toList_renderElements_cons (value : Json) (rest : List Json) :
    (renderElements (value :: rest)).toList =
      ',' :: (value.render ++ renderElements rest).toList := by
  simp [renderElements]

theorem length_renderElements_cons (value : Json) (rest : List Json) :
    (renderElements (value :: rest)).length = (value.render ++ renderElements rest).length + 1 := by
  rw [← String.length_toList, toList_renderElements_cons, List.length_cons, String.length_toList]

/-- The elements of an array are read back if each of them is. -/
theorem elements?_render (readsBack : ∀ element ∈ first :: others, ReadsBack element)
    (enough : 2 * (first.render ++ renderElements others).length ≤ fuel)
    (deep : ∀ element ∈ first :: others, element.depth ≤ depth) (rest : List Char) :
    ∃ reads, Reader.elements? fuel depth
        ((first.render ++ renderElements others).toList ++ rest) = some (reads, rest) ∧
      List.Forall₂ Same reads (first :: others) := by
  -- each element takes one unit of fuel, and its text has at least one character
  induction others generalizing first fuel with
  | nil =>
      have lastLength : (renderElements []).length = 1 := rfl
      rw [String.length_append, lastLength] at enough
      obtain ⟨fuel, rfl⟩ := Nat.exists_eq_add_one.mpr (show 0 < fuel by omega)
      obtain ⟨read, isRead, same⟩ := readsBack first List.mem_cons_self fuel depth (']' :: rest)
        (by omega) (deep first List.mem_cons_self)
        (.cons rfl (by decide) (by decide) (by decide))
      refine ⟨[read], ?_, .cons same .nil⟩
      rw [renderElements, String.toList_append, List.append_assoc]
      exact elements?_of_last isRead
  | cons second more ih =>
      rw [String.length_append, length_renderElements_cons] at enough
      obtain ⟨fuel, rfl⟩ := Nat.exists_eq_add_one.mpr (show 0 < fuel by omega)
      have enoughBehind : 2 * (second.render ++ renderElements more).length ≤ fuel := by omega
      obtain ⟨reads, areRead, allSame⟩ := ih
        (fun element member => readsBack element (.tail _ member)) enoughBehind
        (fun element member => deep element (.tail _ member))
      obtain ⟨read, isRead, same⟩ := readsBack first List.mem_cons_self fuel depth
        (',' :: ((second.render ++ renderElements more).toList ++ rest))
        (by omega) (deep first List.mem_cons_self)
        (.cons rfl (by decide) (by decide) (by decide))
      refine ⟨read :: reads, ?_, .cons same allSame⟩
      rw [String.toList_append, toList_renderElements_cons, List.append_assoc]
      exact elements?_of_more isRead areRead

end Elements

/-! ## Objects -/

section Members

variable {member : String × Json} {others : List (String × Json)} {name : String} {read : Json}
  {input behind rest : List Char} {fuel depth : Nat}

theorem members?_of_last
    (nameRead : Reader.textBody? fuel input [] = some (name, ':' :: behind))
    (valueRead : Reader.value? fuel depth behind = some (read, '\x7d' :: rest)) :
    Reader.members? (fuel + 1) depth ('"' :: input) = some ([(name, read)], rest) := by
  rw [Reader.members?]
  change (Reader.textBody? fuel input []).bind _ = _
  rw [nameRead]
  change (Reader.value? fuel depth behind).bind _ = _
  rw [valueRead]
  rfl

theorem members?_of_more {next : List Char} {reads : List (String × Json)}
    (nameRead : Reader.textBody? fuel input [] = some (name, ':' :: behind))
    (valueRead : Reader.value? fuel depth behind = some (read, ',' :: next))
    (areRead : Reader.members? fuel depth next = some (reads, rest)) :
    Reader.members? (fuel + 1) depth ('"' :: input) = some ((name, read) :: reads, rest) := by
  rw [Reader.members?]
  change (Reader.textBody? fuel input []).bind _ = _
  rw [nameRead]
  change (Reader.value? fuel depth behind).bind _ = _
  rw [valueRead]
  change (Reader.members? fuel depth next).bind _ = _
  rw [areRead]
  rfl

/-- The text of one member. -/
def memberText (member : String × Json) : String :=
  Writer.quote member.1 ++ ":" ++ member.2.render

theorem exists_toList_memberText (member : String × Json) :
    ∃ behind, (memberText member).toList = '"' :: behind := by
  refine ⟨member.1.toList.flatMap Writer.charText ++ ['"'] ++
    (":" ++ member.2.render).toList, ?_⟩
  simp [memberText, toList_quote]

theorem toList_render_object (member : String × Json) (rest : List (String × Json)) :
    (render (.object (member :: rest))).toList =
      '\x7b' :: (memberText member ++ renderMembers rest).toList := by
  simp [render, memberText]

theorem toList_renderMembers_cons (member : String × Json) (rest : List (String × Json)) :
    (renderMembers (member :: rest)).toList =
      ',' :: (memberText member ++ renderMembers rest).toList := by
  simp [renderMembers, memberText]

theorem length_renderMembers_cons (member : String × Json) (rest : List (String × Json)) :
    (renderMembers (member :: rest)).length =
      (memberText member ++ renderMembers rest).length + 1 := by
  rw [← String.length_toList, toList_renderMembers_cons, List.length_cons, String.length_toList]

/-- A member is read back if its value is. -/
theorem exists_member_read (readsBack : ReadsBack member.2)
    (enough : 2 * (memberText member).length ≤ fuel) (deep : member.2.depth ≤ depth)
    (rest : List Char) (ends : EndsNumber rest) :
    ∃ input behind read, (memberText member).toList ++ rest = '"' :: input ∧
      Reader.textBody? fuel input [] = some (member.1, ':' :: behind) ∧
      Reader.value? fuel depth behind = some (read, rest) ∧ Same read member.2 := by
  have colon : ":".length = 1 := rfl
  rw [memberText, String.length_append, String.length_append, colon] at enough
  have enoughName : (Writer.quote member.1).length ≤ fuel + 1 := by omega
  obtain ⟨input, isQuote, nameRead⟩ :=
    textBody?_quote member.1 (':' :: (member.2.render.toList ++ rest)) enoughName
  obtain ⟨read, valueRead, same⟩ := readsBack fuel depth rest (by omega) deep ends
  refine ⟨input, _, read, ?_, nameRead, valueRead, same⟩
  rw [← isQuote]
  simp [memberText]

/-- The members of an object are read back if their values are. -/
theorem members?_render (readsBack : ∀ value ∈ (member :: others).map Prod.snd, ReadsBack value)
    (enough : 2 * (memberText member ++ renderMembers others).length ≤ fuel)
    (deep : ∀ value ∈ (member :: others).map Prod.snd, value.depth ≤ depth)
    (rest : List Char) :
    ∃ reads, Reader.members? fuel depth
        ((memberText member ++ renderMembers others).toList ++ rest) = some (reads, rest) ∧
      reads.map Prod.fst = (member :: others).map Prod.fst ∧
      List.Forall₂ Same (reads.map Prod.snd) ((member :: others).map Prod.snd) := by
  induction others generalizing member fuel with
  | nil =>
      have lastLength : (renderMembers []).length = 1 := rfl
      rw [String.length_append, lastLength] at enough
      obtain ⟨fuel, rfl⟩ := Nat.exists_eq_add_one.mpr (show 0 < fuel by omega)
      have enoughMember : 2 * (memberText member).length ≤ fuel := by omega
      obtain ⟨input, behind, read, isText, nameRead, valueRead, same⟩ :=
        exists_member_read (readsBack member.2 List.mem_cons_self) enoughMember
          (deep member.2 List.mem_cons_self) ('\x7d' :: rest)
          (.cons rfl (by decide) (by decide) (by decide))
      refine ⟨[(member.1, read)], ?_, rfl, .cons same .nil⟩
      have isInput : (memberText member ++ renderMembers []).toList ++ rest = '"' :: input := by
        rw [← isText]
        simp [renderMembers]
      rw [isInput]
      exact members?_of_last nameRead valueRead
  | cons second more ih =>
      rw [String.length_append, length_renderMembers_cons] at enough
      obtain ⟨fuel, rfl⟩ := Nat.exists_eq_add_one.mpr (show 0 < fuel by omega)
      have enoughMember : 2 * (memberText member).length ≤ fuel := by omega
      have enoughBehind : 2 * (memberText second ++ renderMembers more).length ≤ fuel := by
        omega
      obtain ⟨reads, areRead, sameNames, allSame⟩ := ih
        (fun value isValue => readsBack value (.tail _ isValue)) enoughBehind
        (fun value isValue => deep value (.tail _ isValue))
      obtain ⟨input, behind, read, isText, nameRead, valueRead, same⟩ :=
        exists_member_read (readsBack member.2 List.mem_cons_self) enoughMember
          (deep member.2 List.mem_cons_self)
          (',' :: ((memberText second ++ renderMembers more).toList ++ rest))
          (.cons rfl (by decide) (by decide) (by decide))
      refine ⟨(member.1, read) :: reads, ?_, by rw [List.map_cons, sameNames]; rfl,
        .cons same allSame⟩
      have isInput : (memberText member ++ renderMembers (second :: more)).toList ++ rest =
          '"' :: input := by
        rw [← isText, String.toList_append, toList_renderMembers_cons, List.append_assoc]
        rfl
      rw [isInput]
      exact members?_of_more nameRead valueRead areRead

end Members

/-! ## Whole values -/

theorem value?_word {word : List Char} {json : Json} (fuel depth : Nat) (rest : List Char)
    (isWord : (word, json) ∈
      [("null".toList, Json.null), ("true".toList, .bool true), ("false".toList, .bool false)]) :
    Reader.value? (fuel + 1) depth (word ++ rest) = some (json, rest) := by
  simp only [List.mem_cons, Prod.mk.injEq, List.not_mem_nil, or_false] at isWord
  rcases isWord with ⟨rfl, rfl⟩ | ⟨rfl, rfl⟩ | ⟨rfl, rfl⟩ <;> cases depth <;> rfl

theorem value?_quote (fuel depth : Nat) (input : List Char) :
    Reader.value? (fuel + 1) depth ('"' :: input) =
      (Reader.textBody? fuel input []).map fun (value, rest) => (.text value, rest) := by
  cases depth <;> rfl

theorem value?_bracket {first : Char} (noBlank : Reader.isSpace first = false)
    (noEnd : first ≠ ']') (fuel depth : Nat) (behind : List Char) :
    Reader.value? (fuel + 1) (depth + 1) ('[' :: first :: behind) =
      (Reader.elements? fuel depth (first :: behind)).map
        fun (elements, rest) => (.array elements, rest) := by
  have skips : Reader.skipSpace ('[' :: first :: behind) = '[' :: first :: behind := rfl
  unfold Reader.value?
  dsimp only
  rw [skips]
  simp only [skipSpace_cons noBlank]
  split
  next isEnd => exact absurd (List.cons.inj isEnd).1 noEnd
  next => rfl

theorem value?_brace (fuel depth : Nat) (behind : List Char) :
    Reader.value? (fuel + 1) (depth + 1) ('\x7b' :: '"' :: behind) =
      (Reader.members? fuel depth ('"' :: behind)).map
        fun (members, rest) => (.object members, rest) :=
  rfl

theorem InRange.exists_fuel {json : Json} (inRange : json.InRange) {fuel : Nat}
    (enough : 2 * json.render.length ≤ fuel) : ∃ fewer, fuel = fewer + 1 := by
  obtain ⟨first, behind, isText, -⟩ := inRange.exists_cons
  rw [← String.length_toList, isText, List.length_cons] at enough
  exact Nat.exists_eq_add_one.mpr (by omega)

/-- An array is read back if its elements are. -/
theorem readsBack_array {elements : List Json}
    (inRange : ∀ element ∈ elements, element.InRange)
    (readsBack : ∀ element ∈ elements, ReadsBack element) : ReadsBack (.array elements) := by
  intro fuel depth rest enough deep _
  obtain ⟨fuel, rfl⟩ := (InRange.array inRange).exists_fuel enough
  have isDeep : 0 < depth := by
    rw [Json.depth] at deep
    omega
  obtain ⟨depth, rfl⟩ := Nat.exists_eq_add_one.mpr isDeep
  cases elements with
  | nil => exact ⟨.array [], rfl, .array .nil⟩
  | cons first others =>
      obtain ⟨opening, behind, isText, noBlank, noEnd⟩ :=
        InRange.exists_cons (inRange first List.mem_cons_self)
      rw [← String.length_toList, toList_render_array, List.length_cons,
        String.length_toList] at enough
      rw [Json.depth, Nat.add_le_add_iff_right] at deep
      have enoughBehind : 2 * (first.render ++ renderElements others).length ≤ fuel := by omega
      obtain ⟨reads, areRead, allSame⟩ :=
        elements?_render readsBack enoughBehind (depthElements_le_iff.mp deep) rest
      refine ⟨.array reads, ?_, .array allSame⟩
      rw [toList_render_array]
      rw [String.toList_append, isText] at areRead ⊢
      simp only [List.cons_append] at areRead ⊢
      rw [value?_bracket noBlank noEnd, areRead]
      rfl

/-- An object is read back if the values of its members are. -/
theorem readsBack_object {members : List (String × Json)}
    (inRange : ∀ value ∈ members.map Prod.snd, value.InRange)
    (readsBack : ∀ value ∈ members.map Prod.snd, ReadsBack value) :
    ReadsBack (.object members) := by
  intro fuel depth rest enough deep _
  obtain ⟨fuel, rfl⟩ := (InRange.object inRange).exists_fuel enough
  have isDeep : 0 < depth := by
    rw [Json.depth] at deep
    omega
  obtain ⟨depth, rfl⟩ := Nat.exists_eq_add_one.mpr isDeep
  cases members with
  | nil => exact ⟨.object [], rfl, .object rfl .nil⟩
  | cons member others =>
      obtain ⟨behind, isText⟩ := exists_toList_memberText member
      rw [← String.length_toList, toList_render_object, List.length_cons,
        String.length_toList] at enough
      rw [Json.depth, depthMembers_eq, Nat.add_le_add_iff_right] at deep
      have enoughBehind : 2 * (memberText member ++ renderMembers others).length ≤ fuel := by
        omega
      obtain ⟨reads, areRead, sameNames, allSame⟩ :=
        members?_render readsBack enoughBehind (depthElements_le_iff.mp deep) rest
      refine ⟨.object reads, ?_, .object sameNames allSame⟩
      rw [toList_render_object]
      rw [String.toList_append, isText] at areRead ⊢
      simp only [List.cons_append] at areRead ⊢
      rw [value?_brace, areRead]
      rfl

/-- Every value whose numbers are in range is read back. -/
theorem InRange.readsBack {json : Json} (inRange : json.InRange) : ReadsBack json := by
  -- fuel, depth and what stands behind change with the place in the value
  induction inRange with
  | null =>
      intro fuel depth rest enough _ _
      obtain ⟨fuel, rfl⟩ := InRange.null.exists_fuel enough
      exact ⟨.null, value?_word fuel depth rest (by simp [render]), .null⟩
  | bool value =>
      intro fuel depth rest enough _ _
      obtain ⟨fuel, rfl⟩ := (InRange.bool value).exists_fuel enough
      refine ⟨.bool value, value?_word fuel depth rest ?_, .bool value⟩
      cases value <;> simp [render]
  | number inRange =>
      intro fuel depth rest enough _ ends
      obtain ⟨fuel, rfl⟩ := (InRange.number inRange).exists_fuel enough
      obtain ⟨read, isRead, same⟩ := number?_numberText inRange ends
      exact ⟨.number read, value?_of_number? isRead fuel depth, .number same⟩
  | text value =>
      intro fuel depth rest enough _ _
      obtain ⟨fuel, rfl⟩ := (InRange.text value).exists_fuel enough
      rw [render] at enough
      have enoughBehind : (Writer.quote value).length ≤ fuel + 1 := by omega
      obtain ⟨input, isQuote, isRead⟩ := textBody?_quote value rest enoughBehind
      refine ⟨.text value, ?_, .text value⟩
      rw [render, isQuote, value?_quote, isRead]
      rfl
  | array inRange ih => exact readsBack_array inRange ih
  | object inRange ih => exact readsBack_object inRange ih

/-- Read a text with one value that is nested up to some depth. -/
def parseTo? (depth : Nat) (text : String) : Option Json :=
  let input := text.toList
  match Reader.value? (2 * input.length + 2) depth input with
  | some (value, rest) => if (Reader.skipSpace rest).isEmpty then some value else none
  | none => none

/-- The text of a value is read as the same value, if it may be nested that deep. -/
theorem InRange.parseTo?_render {json : Json} (inRange : json.InRange) {depth : Nat}
    (deep : json.depth ≤ depth) :
    ∃ read, parseTo? depth json.render = some read ∧ Same read json := by
  obtain ⟨read, isRead, same⟩ := inRange.readsBack (2 * json.render.toList.length + 2) depth []
    (by rw [String.length_toList]; omega) deep .nil
  rw [List.append_nil] at isRead
  refine ⟨read, ?_, same⟩
  rw [parseTo?, isRead]
  rfl

theorem length_le_of_mem {first element : Json} {others : List Json}
    (member : element ∈ first :: others) :
    element.render.length ≤ (first.render ++ renderElements others).length := by
  induction others generalizing first with
  | nil =>
      rw [List.mem_singleton.mp member, String.length_append]
      exact Nat.le_add_right _ _
  | cons second more ih =>
      rw [String.length_append, length_renderElements_cons]
      rcases List.mem_cons.mp member with rfl | later
      · exact Nat.le_add_right _ _
      · have := ih later
        omega

theorem length_le_of_mem_members {first : String × Json} {value : Json}
    {others : List (String × Json)} (member : value ∈ (first :: others).map Prod.snd) :
    value.render.length ≤ (memberText first ++ renderMembers others).length := by
  have own (member : String × Json) : member.2.render.length ≤ (memberText member).length := by
    rw [memberText, String.length_append]
    exact Nat.le_add_left _ _
  induction others generalizing first with
  | nil =>
      rw [List.map_singleton, List.mem_singleton] at member
      rw [member, String.length_append]
      exact (own first).trans (Nat.le_add_right _ _)
  | cons second more ih =>
      rw [String.length_append, length_renderMembers_cons]
      rcases List.mem_cons.mp member with rfl | later
      · exact (own first).trans (Nat.le_add_right _ _)
      · have := ih later
        omega

/-- A value is not nested deeper than its text is long. -/
theorem InRange.depth_le_length {json : Json} (inRange : json.InRange) :
    json.depth ≤ json.render.length := by
  induction inRange with
  | null => exact Nat.zero_le _
  | bool value => exact Nat.zero_le _
  | number _ => exact Nat.zero_le _
  | text value => exact Nat.zero_le _
  | @array elements _ ih =>
      cases elements with
      | nil => exact Nat.le_add_left _ _
      | cons first others =>
          rw [← String.length_toList, toList_render_array, List.length_cons,
            String.length_toList, depth, Nat.add_le_add_iff_right, depthElements_le_iff]
          exact fun element member => (ih element member).trans (length_le_of_mem member)
  | @object members _ ih =>
      cases members with
      | nil => exact Nat.le_add_left _ _
      | cons member others =>
          rw [← String.length_toList, toList_render_object, List.length_cons,
            String.length_toList, depth, Nat.add_le_add_iff_right, depthMembers_eq,
            depthElements_le_iff]
          exact fun value isValue => (ih value isValue).trans (length_le_of_mem_members isValue)

/-! ## Bytes -/

/-- Read bytes that encode a text with one value, however deep it is nested. -/
def parseBytes? (bytes : List UInt8) : Option Json :=
  (String.fromUTF8? ⟨bytes.toArray⟩).bind fun text => parseTo? text.length text

theorem byteArray_toList_loop (bytes : ByteArray) (start : Nat) (read : List UInt8) :
    ByteArray.toList.loop bytes start read = read.reverse ++ bytes.data.toList.drop start := by
  fun_induction ByteArray.toList.loop bytes start read with
  | case1 start read isInside ih =>
      have isInside : start < bytes.data.toList.length := isInside
      have isByte : bytes.get! start = bytes.data.toList[start] := by
        change bytes.data[start]! = _
        rw [getElem!_pos bytes.data start isInside, Array.getElem_toList]
      rw [ih, isByte, List.reverse_cons, List.append_assoc, List.drop_eq_getElem_cons isInside]
      rfl
  | case2 start read isEnd =>
      rw [List.drop_eq_nil_of_le (not_lt.mp isEnd), List.append_nil]

theorem byteArray_toList (bytes : ByteArray) : bytes.toList = bytes.data.toList :=
  byteArray_toList_loop bytes 0 []

theorem fromUTF8?_toUTF8 (text : String) :
    String.fromUTF8? ⟨text.toUTF8.toList.toArray⟩ = some text := by
  rw [byteArray_toList, Array.toArray_toList]
  exact dif_pos text.isValidUTF8

theorem InRange.parseBytes?_renderBytes {json : Json} (inRange : json.InRange) :
    ∃ read, parseBytes? json.renderBytes = some read ∧ Same read json := by
  rw [parseBytes?, renderBytes, fromUTF8?_toUTF8]
  exact inRange.parseTo?_render inRange.depth_le_length

end Tenancy.Json
