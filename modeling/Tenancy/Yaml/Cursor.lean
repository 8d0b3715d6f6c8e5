/-!
# Places in a YAML text

A cursor is a place in a text: what is left of it, with the line and the column
that the layout of a document depends on.  Blanks and line breaks between two
words are read together, because a scalar that goes over several lines keeps
less of them than is written.
-/

namespace Tenancy.Yaml

/-- Whether a character is a blank. -/
def isBlank (char : Char) : Bool := char == ' ' || char == '\t'

/-- Whether a character ends a line. -/
def isBreak (char : Char) : Bool :=
  ['\n', '\r', '\u0085', '\u2028', '\u2029'].contains char

/-- Whether a character may not stand in a document. -/
def isForbidden (char : Char) : Bool :=
  let code := char.toNat
  !(['\t', '\n', '\r', '\u0085'].contains char || (0x20 ≤ code && code ≤ 0x7E) ||
    (0xA0 ≤ code && code ≤ 0xFFFD) || 0x10000 ≤ code)

/-- Whether a text begins with a blank or a line break, or is over. -/
def endsWord : List Char → Bool
  | [] => true
  | char :: _ => isBlank char || isBreak char

/-- A place in a text. -/
structure Cursor where
  rest : List Char
  index : Nat
  line : Nat
  column : Nat
  deriving Repr

namespace Cursor

/-- The beginning of a text, behind a byte order mark. -/
def ofText (text : String) : Cursor :=
  match text.toList with
  | '\ufeff' :: rest => ⟨rest, 0, 0, 0⟩
  | rest => ⟨rest, 0, 0, 0⟩

/-- The place behind some characters of a line. -/
def skip (cursor : Cursor) (count : Nat) : Cursor :=
  ⟨cursor.rest.drop count, cursor.index + count, cursor.line, cursor.column + count⟩

/-- The beginning of the line behind a break, which takes some characters. -/
def nextLine (cursor : Cursor) (count : Nat) : Cursor :=
  ⟨cursor.rest.drop count, cursor.index + count, cursor.line + 1, 0⟩

/-- A line break as it is kept, and the place behind it.  Most breaks count as a
line feed. -/
def lineBreak? (cursor : Cursor) : Option (Char × Cursor) :=
  match cursor.rest with
  | '\r' :: '\n' :: _ => some ('\n', cursor.nextLine 2)
  | char :: _ =>
      if !isBreak char then none
      else if char == '\u2028' || char == '\u2029' then some (char, cursor.nextLine 1)
      else some ('\n', cursor.nextLine 1)
  | [] => none

/-- Whether a line consists of a marker of three characters and what follows it. -/
def atMarker (cursor : Cursor) (marker : List Char) : Bool :=
  cursor.column == 0 && marker.isPrefixOf cursor.rest && endsWord (cursor.rest.drop 3)

/-- What stands on a line of its own before a document. -/
def documentStart : List Char := ['-', '-', '-']

/-- What stands on a line of its own behind a document. -/
def documentEnd : List Char := ['.', '.', '.']

/-- Whether a document begins or ends here. -/
def atDocumentMarker (cursor : Cursor) : Bool :=
  cursor.atMarker documentStart || cursor.atMarker documentEnd

/-- The characters up to the first that does not pass a test, and the place
behind them; none of them may be a break. -/
def takeWhile (cursor : Cursor) (test : Char → Bool) : List Char × Cursor :=
  let taken := cursor.rest.takeWhile test
  (taken, cursor.skip taken.length)

/-- The place behind a comment, at the end of its line. -/
def skipComment (cursor : Cursor) : Cursor :=
  match cursor.rest with
  | '#' :: _ => (cursor.takeWhile (!isBreak ·)).2
  | _ => cursor

/-- The place behind blanks, a comment and the line break; nothing else may
stand there. -/
def endLine? (cursor : Cursor) : Option Cursor :=
  let cursor := (cursor.takeWhile isBlank).2.skipComment
  match cursor.lineBreak? with
  | some (_, next) => some next
  | none => if cursor.rest.isEmpty then some cursor else none

end Cursor

/-- What stands between two words: blanks, and the line breaks that follow. -/
structure Gap where
  blanks : List Char
  /-- The first line break; an escaped one leaves nothing. -/
  first : Option (List Char)
  later : List Char
  deriving Repr

namespace Gap

/-- Nothing between two words. -/
def empty : Gap := ⟨[], none, []⟩

/-- The gap that an escaped line break begins. -/
def escaped : Gap := ⟨[], some [], []⟩

/-- What is kept of a gap: its blanks if it has no line break, a single space for
a single line feed, and one line feed less than there are otherwise. -/
def text (gap : Gap) : List Char :=
  match gap.first with
  | none => gap.blanks
  | some ['\n'] => if gap.later.isEmpty then [' '] else gap.later
  | some first => first ++ gap.later

/-- Whether a gap ends a line. -/
def endsLine (gap : Gap) : Bool := gap.first.isSome

/-- Add a line break to a gap. -/
def addBreak (gap : Gap) (char : Char) : Gap :=
  match gap.first with
  | none => ⟨[], some [char], gap.later⟩
  | some _ => ⟨gap.blanks, gap.first, gap.later ++ [char]⟩

/-- Add a blank to a gap; blanks at the beginning of a line do not count. -/
def addBlank (gap : Gap) (char : Char) : Gap :=
  if gap.endsLine then gap else ⟨gap.blanks ++ [char], none, []⟩

/-- Read a gap on.  No tab may stand before the given column of a line. -/
def read? (column : Nat) : Nat → Gap → Cursor → Option (Gap × Cursor)
  | 0, gap, cursor => some (gap, cursor)
  | fuel + 1, gap, cursor =>
      match cursor.lineBreak? with
      | some (char, next) => read? column fuel (gap.addBreak char) next
      | none =>
        match cursor.rest with
        | char :: _ =>
            if !isBlank char then some (gap, cursor)
            else if gap.endsLine && cursor.column < column && char == '\t' then none
            else read? column fuel (gap.addBlank char) (cursor.skip 1)
        | [] => some (gap, cursor)

/-- Read on a gap from a place on. -/
def readFrom? (column : Nat) (gap : Gap) (cursor : Cursor) : Option (Gap × Cursor) :=
  read? column (cursor.rest.length + 1) gap cursor

end Gap

end Tenancy.Yaml
