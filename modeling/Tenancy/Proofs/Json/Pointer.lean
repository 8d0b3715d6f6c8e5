import Tenancy.Json.Pointer
import Tenancy.Proofs.Json.Members

/-!
# Reading JSON pointers

A pointer is read by splitting it at its slashes and undoing the escapes in each
token, in one pass or with one replacement after the other.  Reading the pointer of
some segments gives the segments back, whatever characters they hold.
-/

namespace Tenancy.Json.Pointer

/-- Undo the escapes in a token.  A tilde that opens no escape makes the token
unreadable. -/
def unescape? : List Char → Option (List Char)
  | [] => some []
  | '~' :: '0' :: rest => (unescape? rest).map ('~' :: ·)
  | '~' :: '1' :: rest => (unescape? rest).map ('/' :: ·)
  | '~' :: _ => none
  | char :: rest => (unescape? rest).map (char :: ·)

/-- The segments that a pointer names.  The empty pointer names the whole document;
any other begins with a slash. -/
def segments? (pointer : String) : Option (List String) :=
  match pointer.toList with
  | [] => some []
  | '/' :: tokens => ((tokens.splitOn '/').mapM unescape?).map (·.map String.ofList)
  | _ => none

/-! ## Escapes -/

theorem escapeChars_cons_of_ne {char : Char} (notTilde : char ≠ '~') (notSlash : char ≠ '/')
    (rest : List Char) : escapeChars (char :: rest) = char :: escapeChars rest := by
  rw [escapeChars]
  · exact notTilde
  · exact notSlash

@[simp]
theorem unescape?_escapeChars (chars : List Char) : unescape? (escapeChars chars) = some chars := by
  induction chars with
  | nil => rfl
  | cons char rest ih =>
      by_cases tilde : char = '~'
      · subst tilde
        simp [escapeChars, unescape?, ih]
      · by_cases slash : char = '/'
        · subst slash
          simp [escapeChars, unescape?, ih]
        · rw [escapeChars_cons_of_ne tilde slash, unescape?, ih]
          · rfl
          all_goals simp [tilde]

/-- No slash is left in an escaped segment. -/
theorem slash_notMem_escapeChars (chars : List Char) : '/' ∉ escapeChars chars := by
  induction chars with
  | nil => simp [escapeChars]
  | cons char rest ih =>
      by_cases tilde : char = '~'
      · subst tilde
        simp [escapeChars, ih]
      · by_cases slash : char = '/'
        · subst slash
          simp [escapeChars, ih]
        · rw [escapeChars_cons_of_ne tilde slash]
          simp [ih, Ne.symm slash]

/-! ## Pointers -/

/-- A pointer that is not empty is a slash in front of its tokens joined by
slashes. -/
theorem chars_cons (segment : String) (rest : List String) :
    chars (segment :: rest) =
      '/' :: ['/'].intercalate ((segment :: rest).map fun token => escapeChars token.toList) := by
  induction rest generalizing segment with
  | nil => simp [chars]
  | cons next rest ih =>
      rw [chars, ih next, List.map_cons, List.map_cons, List.map_cons,
        List.intercalate_cons_cons]
      simp

private theorem mapM_unescape? (segments : List String) :
    (segments.map fun token => escapeChars token.toList).mapM unescape? =
      some (segments.map String.toList) := by
  induction segments with
  | nil => rfl
  | cons segment rest ih =>
      rw [List.map_cons, List.mapM_cons, ih, unescape?_escapeChars]
      rfl

/-- Reading the pointer of some segments gives them back. -/
@[simp]
theorem segments?_ofSegments (segments : List String) :
    segments? (ofSegments segments) = some segments := by
  cases segments with
  | nil => rfl
  | cons segment rest =>
      have noSlash : ∀ token ∈ (segment :: rest).map fun token => escapeChars token.toList,
          '/' ∉ token := by
        intro token member
        obtain ⟨source, _, rfl⟩ := List.mem_map.mp member
        exact slash_notMem_escapeChars source.toList
      rw [segments?, ofSegments, String.toList_ofList, chars_cons]
      change ((List.splitOn '/' _).mapM unescape?).map _ = _
      rw [List.splitOn_intercalate '/' noSlash (by simp), mapM_unescape?]
      simp [Function.comp_def]

/-! ## Texts that are pointers -/

theorem splitOn_cons_slash (rest : List Char) :
    ('/' :: rest).splitOn '/' = [] :: rest.splitOn '/' := by
  rw [List.splitOn_eq_splitOnP, List.splitOn_eq_splitOnP, List.splitOnP_cons_eq_if_modifyHead]
  rfl

theorem splitOn_cons_of_ne {char : Char} (notSlash : char ≠ '/') {rest token : List Char}
    {tokens : List (List Char)} (split : rest.splitOn '/' = token :: tokens) :
    (char :: rest).splitOn '/' = (char :: token) :: tokens := by
  rw [List.splitOn_eq_splitOnP] at split ⊢
  rw [List.splitOnP_cons_eq_if_modifyHead, if_neg (by simpa using notSlash), split]
  rfl

theorem exists_splitOn_eq_cons (chars : List Char) :
    ∃ token tokens, chars.splitOn '/' = token :: tokens :=
  List.exists_cons_of_ne_nil (List.splitOn_ne_nil '/' chars)

/-- Every tilde opens an escape exactly if the tokens between slashes can be read. -/
theorem all_isSome_unescape? (chars : List Char) :
    ((chars.splitOn '/').all fun token => (unescape? token).isSome) = isEscaped chars := by
  fun_induction isEscaped chars with
  | case1 => rfl
  | case2 rest ih =>
      obtain ⟨token, tokens, split⟩ := exists_splitOn_eq_cons rest
      rw [splitOn_cons_of_ne (by decide) (splitOn_cons_of_ne (by decide) split), ← ih, split]
      simp [unescape?]
  | case3 rest ih =>
      obtain ⟨token, tokens, split⟩ := exists_splitOn_eq_cons rest
      rw [splitOn_cons_of_ne (by decide) (splitOn_cons_of_ne (by decide) split), ← ih, split]
      simp [unescape?]
  | case4 rest notZero notOne =>
      -- the token goes on with the first character behind the tilde, if it goes on
      have unread {token : List Char} {tokens : List (List Char)}
          (split : rest.splitOn '/' = token :: tokens) : unescape? ('~' :: token) = none := by
        cases rest with
        | nil =>
            cases split
            rfl
        | cons char rest =>
            by_cases slash : char = '/'
            · subst slash
              rw [splitOn_cons_slash] at split
              cases split
              rfl
            · obtain ⟨inner, others, restSplit⟩ := exists_splitOn_eq_cons rest
              rw [splitOn_cons_of_ne slash restSplit] at split
              cases split
              rw [unescape?]
              · rintro _ isToken
                exact notZero rest (by rw [(List.cons.inj isToken).1])
              · rintro _ isToken
                exact notOne rest (by rw [(List.cons.inj isToken).1])
      obtain ⟨token, tokens, split⟩ := exists_splitOn_eq_cons rest
      rw [splitOn_cons_of_ne (by decide) split, List.all_cons, unread split]
      rfl
  | case5 char rest noZero noOne notTilde ih =>
      by_cases slash : char = '/'
      · subst slash
        rw [splitOn_cons_slash, List.all_cons, ih]
        rfl
      · obtain ⟨token, tokens, split⟩ := exists_splitOn_eq_cons rest
        have isSome : (unescape? (char :: token)).isSome = (unescape? token).isSome := by
          rw [unescape?, Option.isSome_map]
          · exact fun _ isTilde => (notTilde isTilde).elim
          · exact fun _ isTilde => (notTilde isTilde).elim
          · exact fun isTilde => notTilde isTilde
        rw [splitOn_cons_of_ne slash split, ← ih, split, List.all_cons, List.all_cons, isSome]

theorem isPointer_eq_false {text : String} (notEmpty : text.toList ≠ [])
    (noSlash : ∀ tokens, text.toList ≠ '/' :: tokens) : isPointer text = false := by
  unfold isPointer
  split
  next empty => exact absurd empty notEmpty
  next tokens slash => exact absurd slash (noSlash tokens)
  next => rfl

theorem segments?_eq_none {text : String} (notEmpty : text.toList ≠ [])
    (noSlash : ∀ tokens, text.toList ≠ '/' :: tokens) : segments? text = none := by
  unfold segments?
  split
  next empty => exact absurd empty notEmpty
  next tokens slash => exact absurd slash (noSlash tokens)
  next => rfl

/-- A text is a pointer exactly if segments can be read from it. -/
theorem isPointer_eq (text : String) : isPointer text = (segments? text).isSome := by
  by_cases empty : text.toList = []
  · rw [isPointer, segments?, empty]
    rfl
  by_cases slash : ∃ tokens, text.toList = '/' :: tokens
  · obtain ⟨tokens, slash⟩ := slash
    rw [isPointer, segments?, slash]
    change isEscaped tokens = (((tokens.splitOn '/').mapM unescape?).map _).isSome
    rw [Option.isSome_map, Bool.eq_iff_iff, isSome_mapM_iff, ← all_isSome_unescape?,
      List.all_eq_true]
  · have noSlash := not_exists.mp slash
    rw [isPointer_eq_false empty noSlash, segments?_eq_none empty noSlash]
    rfl

/-! ## Escapes by replacement -/

/-- Write some characters in place of each occurrence of a character. -/
def replaceEach (old : Char) (new : List Char) (chars : List Char) : List Char :=
  chars.flatMap fun char => if char = old then new else [char]

/-- Segments are escaped by replacing their tildes first and their slashes second: the tildes
that the slashes are replaced with stay as they are. -/
theorem escapeChars_eq_replaceEach (chars : List Char) :
    escapeChars chars = replaceEach '/' ['~', '1'] (replaceEach '~' ['~', '0'] chars) := by
  induction chars with
  | nil => rfl
  | cons char rest ih =>
      simp only [replaceEach, List.flatMap_cons, List.flatMap_append] at ih ⊢
      rw [← ih]
      by_cases tilde : char = '~'
      · subst tilde
        rfl
      · by_cases slash : char = '/'
        · subst slash
          rfl
        · rw [escapeChars_cons_of_ne tilde slash]
          simp [tilde, slash]

/-- A pointer opens each segment with a slash and escapes it by replacement. -/
theorem toList_ofSegments (segments : List String) :
    (ofSegments segments).toList = segments.flatMap fun segment =>
      '/' :: replaceEach '/' ['~', '1'] (replaceEach '~' ['~', '0'] segment.toList) := by
  rw [ofSegments, String.toList_ofList]
  induction segments with
  | nil => rfl
  | cons segment rest ih =>
      rw [chars, ih, escapeChars_eq_replaceEach, List.flatMap_cons]

/-- Write a character in place of each tilde that a mark follows, and of the mark. -/
def replaceMarked (mark new : Char) : List Char → List Char
  | '~' :: next :: rest =>
      if next = mark then new :: replaceMarked mark new rest
      else '~' :: replaceMarked mark new (next :: rest)
  | char :: rest => char :: replaceMarked mark new rest
  | [] => []

/-- Read a token by replacing the escapes of slashes first and those of tildes second. -/
def decodeToken (token : List Char) : List Char :=
  replaceMarked '0' '~' (replaceMarked '1' '/' token)

/-- The segments that a pointer names, token by token. -/
def decode? (text : String) : Option (List String) :=
  if isPointer text then
    match text.toList with
    | [] => some []
    | _ :: tokens => some ((tokens.splitOn '/').map fun token => String.ofList (decodeToken token))
  else none

section Decoding

variable {mark new char : Char}

theorem replaceMarked_cons_of_ne (notTilde : char ≠ '~') (rest : List Char) :
    replaceMarked mark new (char :: rest) = char :: replaceMarked mark new rest := by
  rw [replaceMarked]
  rintro next others rfl
  exact absurd rfl notTilde

theorem replaceMarked_mark (rest : List Char) :
    replaceMarked mark new ('~' :: mark :: rest) = new :: replaceMarked mark new rest := by
  rw [replaceMarked, if_pos rfl]

theorem replaceMarked_of_ne (notMark : char ≠ mark) (rest : List Char) :
    replaceMarked mark new ('~' :: char :: rest) =
      '~' :: replaceMarked mark new (char :: rest) := by
  rw [replaceMarked, if_neg notMark]

end Decoding

/-- One pass over a token undoes the same escapes as two. -/
theorem eq_decodeToken_of_unescape? {token chars : List Char}
    (isRead : unescape? token = some chars) : chars = decodeToken token := by
  rw [decodeToken]
  fun_induction unescape? token generalizing chars with
  | case1 =>
      cases isRead
      rfl
  | case2 rest ih =>
      obtain ⟨inner, innerRead, rfl⟩ := Option.map_eq_some_iff.mp isRead
      have kept : replaceMarked '1' '/' ('~' :: '0' :: rest) =
          '~' :: '0' :: replaceMarked '1' '/' rest := by
        rw [replaceMarked_of_ne (by decide), replaceMarked_cons_of_ne (by decide)]
      rw [kept, replaceMarked_mark, ih innerRead]
  | case3 rest ih =>
      obtain ⟨inner, innerRead, rfl⟩ := Option.map_eq_some_iff.mp isRead
      rw [replaceMarked_mark, replaceMarked_cons_of_ne (by decide), ih innerRead]
  | case4 => cases isRead
  | case5 char rest _ _ notTilde ih =>
      obtain ⟨inner, innerRead, rfl⟩ := Option.map_eq_some_iff.mp isRead
      rw [replaceMarked_cons_of_ne notTilde, replaceMarked_cons_of_ne notTilde, ih innerRead]

/-- The segments that can be read from a text are those that its tokens decode to. -/
theorem decode?_of_segments? {text : String} {segments : List String}
    (isRead : segments? text = some segments) : decode? text = some segments := by
  have isPointer : isPointer text = true := by rw [isPointer_eq, isRead, Option.isSome_some]
  rw [decode?, if_pos isPointer]
  unfold segments? at isRead
  split at isRead
  next isEmpty => rwa [isEmpty]
  next tokens isSlash =>
    obtain ⟨decoded, allRead, rfl⟩ := Option.map_eq_some_iff.mp isRead
    have readable := isSome_mapM_iff.mp (Option.isSome_of_eq_some allRead)
    have tokenwise : (tokens.splitOn '/').map unescape? =
        ((tokens.splitOn '/').map decodeToken).map some := by
      rw [List.map_map]
      refine List.map_congr_left fun token member => ?_
      obtain ⟨chars, tokenRead⟩ := Option.isSome_iff_exists.mp (readable token member)
      rw [tokenRead, eq_decodeToken_of_unescape? tokenRead, Function.comp_apply]
    rw [mapM_eq_some_iff, tokenwise, List.map_inj_right fun _ _ => Option.some.inj] at allRead
    rw [isSlash, ← allRead]
    simp [Function.comp_def]
  next => cases isRead

/-- Every tilde among some characters is followed by a zero or a one. -/
def MarksTildes (chars : List Char) : Prop :=
  ∀ before after, chars = before ++ '~' :: after →
    after.head? = some '0' ∨ after.head? = some '1'

theorem MarksTildes.cons {char : Char} {chars : List Char} (notTilde : char ≠ '~')
    (marks : MarksTildes chars) : MarksTildes (char :: chars) := by
  intro before after split
  cases before with
  | nil => exact absurd (List.cons.inj split).1 notTilde
  | cons first before => exact marks before after (List.cons.inj split).2

theorem MarksTildes.cons_tilde {mark : Char} {chars : List Char}
    (isMark : mark = '0' ∨ mark = '1') (marks : MarksTildes chars) :
    MarksTildes ('~' :: mark :: chars) := by
  have notTilde : mark ≠ '~' := by rcases isMark with rfl | rfl <;> decide
  intro before after split
  cases before with
  | nil =>
      obtain ⟨-, rfl⟩ := List.cons.inj split
      simpa using isMark
  | cons first before => exact marks.cons notTilde before after (List.cons.inj split).2

theorem marksTildes_of_isEscaped {chars : List Char} (escaped : isEscaped chars = true) :
    MarksTildes chars := by
  fun_induction isEscaped chars with
  | case1 => simp [MarksTildes]
  | case2 rest ih => exact (ih escaped).cons_tilde (.inl rfl)
  | case3 rest ih => exact (ih escaped).cons_tilde (.inr rfl)
  | case4 => cases escaped
  | case5 char rest _ _ notTilde ih => exact (ih escaped).cons notTilde

/-- A pointer is empty or begins with a slash, and all its tildes are marked. -/
theorem marksTildes_of_isPointer {text : String} (pointer : isPointer text = true) :
    (∀ first ∈ text.toList.head?, first = '/') ∧ MarksTildes text.toList := by
  unfold isPointer at pointer
  split at pointer
  next isEmpty => simp [isEmpty, MarksTildes]
  next rest isSlash =>
    rw [isSlash]
    exact ⟨by simp, (marksTildes_of_isEscaped pointer).cons (by decide)⟩
  next => cases pointer

/-- A pointer opens each segment with a slash and replaces tildes before slashes.  Reading the
pointer of some segments gives the segments back; so different segments have different pointers,
and each of them is empty or begins with a slash and marks its tildes. -/
theorem ofSegments_round_trip :
    (∀ segments, (ofSegments segments).toList = segments.flatMap fun segment =>
        '/' :: replaceEach '/' ['~', '1'] (replaceEach '~' ['~', '0'] segment.toList)) ∧
      (∀ segments, decode? (ofSegments segments) = some segments) ∧
      Function.Injective ofSegments ∧
      ∀ segments, (∀ first ∈ (ofSegments segments).toList.head?, first = '/') ∧
        MarksTildes (ofSegments segments).toList := by
  have readBack (segments : List String) := segments?_ofSegments segments
  refine ⟨toList_ofSegments, fun segments => decode?_of_segments? (readBack segments),
    fun first second same => ?_, fun segments => marksTildes_of_isPointer ?_⟩
  · exact Option.some.inj (by rw [← readBack first, same, readBack second])
  · rw [isPointer_eq, readBack, Option.isSome_some]

example : ofSegments ["", "~1", "a/b~"] = "//~01/a~1b~0" := by decide

end Tenancy.Json.Pointer
