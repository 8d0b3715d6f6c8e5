import Tenancy.Text.Digits
import Tenancy.Yaml.Cursor

/-!
# Scalars of YAML

A scalar is a text.  It is written plainly, between quotes, or as a block of
lines, and each of these keeps another part of the blanks, the line breaks and
the escapes that are written.
-/

namespace Tenancy.Yaml

/-- How a scalar is written. -/
inductive ScalarStyle where
  | plain
  | quoted
  | literal
  | folded
  deriving Repr, DecidableEq

namespace Scalar

/-! ## Quoted scalars -/

/-- The escapes that stand for one character. -/
def namedEscapes : List (Char × Char) :=
  [('0', '\x00'), ('a', '\x07'), ('b', '\x08'), ('t', '\t'), ('\t', '\t'), ('n', '\n'),
    ('v', '\x0b'), ('f', '\x0c'), ('r', '\r'), ('e', '\x1b'), (' ', ' '), ('"', '"'),
    ('/', '/'), ('\\', '\\'), ('N', '\u0085'), ('_', '\u00a0'), ('L', '\u2028'),
    ('P', '\u2029')]

/-- The number of digits of an escape that names a code point. -/
def codeLength? : Char → Option Nat
  | 'x' => some 2
  | 'u' => some 4
  | 'U' => some 8
  | _ => none

/-- The character that hexadecimal digits name. -/
def codeChar? (digits : List Char) : Option Char := do
  guard (digits.all fun digit => (Text.hexDigit? digit).isSome)
  let code := Text.hexValue digits
  guard (code < 0xD800 || (0xE000 ≤ code && code < 0x110000))
  return Char.ofNat code

/-- The character that an escape stands for, and the number of characters that
the escape takes, without the backslash. -/
def escape? : List Char → Option (Char × Nat)
  | [] => none
  | letter :: rest =>
      match namedEscapes.lookup letter, codeLength? letter with
      | some char, _ => some (char, 1)
      | none, some length =>
          if rest.length < length then none
          else (codeChar? (rest.take length)).map fun char => (char, length + 1)
      | none, none => none

/-- A piece of a quoted scalar: the characters before a blank, a line break or
the closing quote, and whether an escaped line break ends it. -/
structure Piece where
  chars : List Char
  isEscaped : Bool
  next : Cursor

/-- Read a piece between single quotes, where a quote is written twice, before
the characters read so far in reverse. -/
def singlePiece : Nat → List Char → Cursor → Piece
  | 0, read, cursor => ⟨read.reverse, false, cursor⟩
  | fuel + 1, read, cursor =>
      match cursor.rest with
      | '\'' :: '\'' :: _ => singlePiece fuel ('\'' :: read) (cursor.skip 2)
      | '\'' :: _ => ⟨read.reverse, false, cursor⟩
      | char :: rest =>
          if endsWord (char :: rest) then ⟨read.reverse, false, cursor⟩
          else singlePiece fuel (char :: read) (cursor.skip 1)
      | [] => ⟨read.reverse, false, cursor⟩

/-- Read a piece between double quotes, where a backslash begins an escape,
before the characters read so far in reverse. -/
def doublePiece? : Nat → List Char → Cursor → Option Piece
  | 0, _, _ => none
  | fuel + 1, read, cursor =>
      match cursor.rest with
      | '"' :: _ => some ⟨read.reverse, false, cursor⟩
      | '\\' :: rest =>
          match (cursor.skip 1).lineBreak? with
          | some (_, next) => some ⟨read.reverse, true, next⟩
          | none =>
              (escape? rest).bind fun (char, length) =>
                doublePiece? fuel (char :: read) (cursor.skip (length + 1))
      | char :: rest =>
          if endsWord (char :: rest) then some ⟨read.reverse, false, cursor⟩
          else doublePiece? fuel (char :: read) (cursor.skip 1)
      | [] => some ⟨read.reverse, false, cursor⟩

/-- Read a piece of a scalar between the given quotes. -/
def piece? (quote : Char) (cursor : Cursor) : Option Piece :=
  if quote == '"' then doublePiece? (cursor.rest.length + 1) [] cursor
  else some (singlePiece (cursor.rest.length + 1) [] cursor)

/-- Read pieces up to the closing quote.  No document may begin or end inside. -/
def quotedBody? (quote : Char) : Nat → List Char → Cursor → Option (List Char × Cursor)
  | 0, _, _ => none
  | fuel + 1, read, cursor => do
      guard (!cursor.atDocumentMarker && !cursor.rest.isEmpty)
      let piece ← piece? quote cursor
      let read := read ++ piece.chars
      if !piece.isEscaped && piece.next.rest.head? == some quote then
        return (read, piece.next.skip 1)
      else
        let (gap, next) ← Gap.readFrom? 0 (if piece.isEscaped then .escaped else .empty) piece.next
        quotedBody? quote fuel (read ++ gap.text) next

/-- Read a quoted scalar from its opening quote on. -/
def quoted? (quote : Char) (cursor : Cursor) : Option (String × Cursor) :=
  (quotedBody? quote (cursor.rest.length + 1) [] (cursor.skip 1)).map fun (chars, next) =>
    (String.ofList chars, next)

/-! ## Plain scalars -/

/-- The characters that structure collections in brackets. -/
def isFlowIndicator (char : Char) : Bool := [',', '[', ']', '\x7b', '\x7d'].contains char

/-- Whether a plain scalar can begin here. -/
def startsPlain (inFlow : Bool) : List Char → Bool
  | [] => false
  | char :: rest =>
      if char == '-' then !(rest.head?.any isBlank)
      else if char == '?' || char == ':' then !inFlow && !endsWord rest
      else
        !endsWord (char :: rest) && !isFlowIndicator char &&
          !(['#', '&', '*', '!', '|', '>', '\'', '"', '%', '@', '\x60'].contains char)

/-- Read the characters of a plain scalar up to a blank, a line break or an
indicator, before the ones read so far in reverse.  In a collection a colon may
not stand before an indicator. -/
def plainWord? (inFlow : Bool) : Nat → List Char → Cursor → Option (List Char × Cursor)
  | 0, _, _ => none
  | fuel + 1, read, cursor =>
      match cursor.rest with
      | [] => some (read.reverse, cursor)
      | char :: rest =>
          if inFlow && char == ':' &&
              rest.head?.any (fun next => next == '?' || isFlowIndicator next) then
            none
          else if endsWord (char :: rest) || (char == ':' && endsWord rest) ||
              (inFlow && isFlowIndicator char) then
            some (read.reverse, cursor)
          else plainWord? inFlow fuel (char :: read) (cursor.skip 1)

/-- A plain scalar, with whether a line break follows it. -/
structure Plain where
  text : String
  endsLine : Bool
  next : Cursor

/-- Read words up to a document, a comment, an indicator or a line that begins
before a column, behind a gap that is kept only if a word follows. -/
def plainBody? (inFlow : Bool) (column : Nat) : Nat → List Char → Gap → Cursor → Option Plain
  | 0, _, _, _ => none
  | fuel + 1, read, gap, cursor => do
      let finished : Plain := ⟨String.ofList read, gap.endsLine, cursor⟩
      if cursor.atDocumentMarker || cursor.rest.head? == some '#' then return finished
      let (word, next) ← plainWord? inFlow (cursor.rest.length + 1) [] cursor
      if word.isEmpty then return finished
      let read := read ++ gap.text ++ word
      let (gap, next) ← Gap.readFrom? column .empty next
      if next.column < column && !inFlow then return ⟨String.ofList read, gap.endsLine, next⟩
      plainBody? inFlow column fuel read gap next

/-- Read a plain scalar whose lines begin at least at a column. -/
def plain? (inFlow : Bool) (column : Nat) (cursor : Cursor) : Option Plain :=
  plainBody? inFlow column (cursor.rest.length + 1) [] .empty cursor

/-! ## Blocks of lines -/

/-- What becomes of the line breaks at the end of a block. -/
inductive Chomping where
  | strip
  | clip
  | keep
  deriving Repr, DecidableEq

/-- The header of a block: the chomping and the columns by which it is further in
than what surrounds it, if that is given. -/
structure BlockHeader where
  chomping : Chomping
  increment : Option Nat
  deriving Repr, DecidableEq

/-- The chomping that a sign stands for. -/
def chomping? : Char → Option Chomping
  | '+' => some .keep
  | '-' => some .strip
  | _ => none

/-- The columns that a digit stands for. -/
def increment? (char : Char) : Option Nat :=
  if char.isDigit && char != '0' then some (char.toNat - '0'.toNat) else none

/-- Read the header of a block: a sign and a digit, in any order, either of which
may be left out. -/
def blockHeader (chars : List Char) : BlockHeader × Nat :=
  let first := chars.head?
  let second := (chars.drop 1).head?
  match first.bind chomping?, first.bind increment? with
  | some chomping, _ =>
      match second.bind increment? with
      | some increment => (⟨chomping, some increment⟩, 2)
      | none => (⟨chomping, none⟩, 1)
  | none, some increment =>
      match second.bind chomping? with
      | some chomping => (⟨chomping, some increment⟩, 2)
      | none => (⟨.clip, some increment⟩, 1)
  | none, none => (⟨.clip, none⟩, 0)

/-- The place behind the spaces of a line, up to the column of a block if it is
known. -/
def skipIndent (column : Option Nat) : Nat → Cursor → Cursor
  | 0, cursor => cursor
  | fuel + 1, cursor =>
      if cursor.rest.head? == some ' ' && column.all (cursor.column < ·) then
        skipIndent column fuel (cursor.skip 1)
      else cursor

/-- The empty lines before a line of a block. -/
structure EmptyLines where
  breaks : List Char
  /-- The furthest column that any of them reaches. -/
  reach : Nat
  next : Cursor

/-- Read empty lines.  No tab may stand where the column of the block is still
open or not yet reached. -/
def emptyLines? (column : Option Nat) : Nat → EmptyLines → Option EmptyLines
  | 0, _ => none
  | fuel + 1, lines =>
      let next := skipIndent column (lines.next.rest.length + 1) lines.next
      let reach := max lines.reach next.column
      if next.rest.head? == some '\t' && column.all (next.column < ·) then none
      else
        match next.lineBreak? with
        | some (char, next) => emptyLines? column fuel ⟨lines.breaks ++ [char], reach, next⟩
        | none => some ⟨lines.breaks, reach, next⟩

/-- Read empty lines from a place on. -/
def emptyLinesFrom? (column : Option Nat) (cursor : Cursor) : Option EmptyLines :=
  emptyLines? column (cursor.rest.length + 1) ⟨[], 0, cursor⟩

/-- What has been read of a block: its text, the line break that ends it, and
the empty lines behind. -/
structure Block where
  text : List Char
  ending : List Char
  empty : List Char
  startsBlank : Bool

/-- What stands between the lines of a block before a line: in a folded block a
single line feed between lines that begin with no blank becomes a space. -/
def Block.between (block : Block) (folded startsBlank : Bool) : List Char :=
  if folded && block.ending == ['\n'] && !block.startsBlank && !startsBlank then
    if block.empty.isEmpty then [' '] else block.empty
  else block.ending ++ block.empty

/-- Read the lines of a block that begin at its column. -/
def blockLines? (folded : Bool) (column : Nat) : Nat → Block → Cursor → Option (Block × Cursor)
  | 0, _, _ => none
  | fuel + 1, block, cursor =>
      if cursor.column != column || cursor.rest.isEmpty then some (block, cursor)
      else do
        let startsBlank := cursor.rest.head?.any isBlank
        let (line, next) := cursor.takeWhile (!isBreak ·)
        let text := block.text ++ block.between folded startsBlank ++ line
        let (ending, next) := match next.lineBreak? with
          | some (char, next) => ([char], next)
          | none => ([], next)
        let lines ← emptyLinesFrom? (some column) next
        blockLines? folded column fuel ⟨text, ending, lines.breaks, startsBlank⟩ lines.next

/-- Read a block from the indicator on that begins it.  Its lines begin at least
at the given column. -/
def block? (folded : Bool) (column : Nat) (cursor : Cursor) : Option (String × Cursor) := do
  let (header, length) := blockHeader (cursor.rest.drop 1)
  let cursor ← (cursor.skip (length + 1)).endLine?
  let given := header.increment.map fun increment => column - 1 + increment
  let lines ← emptyLinesFrom? given cursor
  let column := given.getD (max lines.reach (max column 1))
  let (block, next) ← blockLines? folded column (cursor.rest.length + 1)
    ⟨[], [], lines.breaks, false⟩ lines.next
  let ending := match header.chomping with
    | .strip => []
    | .clip => block.ending
    | .keep => block.ending ++ block.empty
  return (String.ofList (block.text ++ ending), next)

end Scalar

end Tenancy.Yaml
