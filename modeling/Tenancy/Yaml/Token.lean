import Tenancy.Yaml.Scalar

/-!
# Tokens of YAML

A YAML text is cut into tokens.  The layout of the lines becomes tokens that open
and close collections, and a key is marked as one although it is known to be a
key only when the colon behind it is read.
-/

namespace Tenancy.Yaml

/-- A token. -/
inductive Token where
  | version (major minor : Nat)
  | tagShorthand (handle name : String)
  | documentStart
  | documentEnd
  | blockSequence
  | blockMapping
  | blockEnd
  | flowSequence
  | flowSequenceEnd
  | flowMapping
  | flowMappingEnd
  | blockEntry
  | flowEntry
  | key
  | value
  | alias (name : String)
  | anchor (name : String)
  | tag (handle suffix : String)
  | scalar (style : ScalarStyle) (text : String)
  deriving Repr, DecidableEq

/-- What may turn out to be a key: where it begins, and how many tokens stand
before it.  Where a collection goes on only with a key, it is required. -/
structure PendingKey where
  isRequired : Bool
  position : Nat
  index : Nat
  line : Nat
  column : Nat
  deriving Repr

/-- The greatest length of a key that is not marked as one beforehand. -/
def PendingKey.lengthLimit : Nat := 1024

/-- Whether a key can no longer be one, because its line or its length is over. -/
def PendingKey.isStale (pending : PendingKey) (cursor : Cursor) : Bool :=
  pending.line < cursor.line || pending.index + lengthLimit < cursor.index

/-- How far a text is cut into tokens. -/
structure Lexer where
  cursor : Cursor
  /-- The tokens so far, the last one first. -/
  tokens : List Token
  count : Nat
  /-- The columns of the open blocks, the innermost first. -/
  indents : List Nat
  keyAllowed : Bool
  /-- What may be a key at the innermost level of brackets. -/
  pending : Option PendingKey
  /-- What may be keys at the levels around it. -/
  outer : List (Option PendingKey)
  deriving Repr

namespace Lexer

/-- The beginning of a text. -/
def ofText (text : String) : Lexer := ⟨Cursor.ofText text, [], 0, [], true, none, []⟩

/-- Whether the place is inside brackets. -/
def inFlow (lexer : Lexer) : Bool := !lexer.outer.isEmpty

/-- The least column of the lines that belong to the innermost block. -/
def leastColumn (lexer : Lexer) : Nat :=
  match lexer.indents with
  | [] => 0
  | column :: _ => column + 1

/-- Append a token. -/
def emit (lexer : Lexer) (token : Token) : Lexer :=
  { lexer with tokens := token :: lexer.tokens, count := lexer.count + 1 }

/-- Insert a token at a position among those that are there. -/
def insertAt (lexer : Lexer) (position : Nat) (token : Token) : Lexer :=
  let behind := lexer.count - position
  { lexer with
    tokens := lexer.tokens.take behind ++ token :: lexer.tokens.drop behind
    count := lexer.count + 1 }

/-- Go to a place. -/
def moveTo (lexer : Lexer) (cursor : Cursor) : Lexer := { lexer with cursor }

/-- Append a token and go on behind it. -/
def emitTo (lexer : Lexer) (token : Token) (cursor : Cursor) : Lexer :=
  (lexer.emit token).moveTo cursor

/-- Say whether a key may begin next. -/
def allowKey (lexer : Lexer) (keyAllowed : Bool) : Lexer := { lexer with keyAllowed }

/-! ## Keys -/

/-- Give up what may be a key, unless a key is required. -/
def dropKey? (lexer : Lexer) : Option Lexer :=
  match lexer.pending with
  | some pending => if pending.isRequired then none else some { lexer with pending := none }
  | none => some lexer

/-- Note that a key may begin here. -/
def saveKey? (lexer : Lexer) : Option Lexer :=
  if !lexer.keyAllowed then some lexer
  else do
    let lexer ← lexer.dropKey?
    let cursor := lexer.cursor
    let isRequired := !lexer.inFlow && lexer.indents.head? == some cursor.column
    return { lexer with
      pending := some ⟨isRequired, lexer.count, cursor.index, cursor.line, cursor.column⟩ }

/-- Give up what can no longer be a key. -/
def dropStale? (lexer : Lexer) : Option Lexer := do
  let fresh (pending : Option PendingKey) : Option (Option PendingKey) :=
    match pending with
    | some key =>
        if !key.isStale lexer.cursor then some (some key)
        else if key.isRequired then none
        else some none
    | none => some none
  let pending ← fresh lexer.pending
  let outer ← lexer.outer.mapM fresh
  return { lexer with pending, outer }

/-! ## Blocks -/

/-- Open a block at a column, unless one is open there already. -/
def openBlock (lexer : Lexer) (column position : Nat) (token : Token) : Lexer :=
  if !lexer.inFlow && lexer.indents.head?.all (· < column) then
    { lexer.insertAt position token with indents := column :: lexer.indents }
  else lexer

/-- Open a block here. -/
def openBlockHere (lexer : Lexer) (token : Token) : Lexer :=
  lexer.openBlock lexer.cursor.column lexer.count token

/-- Close the innermost blocks that begin behind a column, or all of them. -/
def closeBlocks (column : Option Nat) (lexer : Lexer) : Lexer :=
  let closed := lexer.indents.takeWhile fun indent => column.all (· < indent)
  if lexer.inFlow then lexer
  else
    { lexer with
      tokens := closed.map (fun _ => Token.blockEnd) ++ lexer.tokens
      count := lexer.count + closed.length
      indents := lexer.indents.drop closed.length }

/-- Close all blocks before a line that does not belong to any. -/
def closeAll? (lexer : Lexer) : Option Lexer := do
  let lexer ← (lexer.closeBlocks none).dropKey?
  return lexer.allowKey false

/-! ## Between tokens -/

/-- Skip blanks, comments and line breaks.  A tab counts as a blank where no key
may begin. -/
def skipSpace : Nat → Lexer → Lexer
  | 0, lexer => lexer
  | fuel + 1, lexer =>
      let isSpace (char : Char) : Bool :=
        char == ' ' || (char == '\t' && (lexer.inFlow || !lexer.keyAllowed))
      let cursor := (lexer.cursor.takeWhile isSpace).2.skipComment
      match cursor.lineBreak? with
      | some (_, next) =>
          skipSpace fuel { lexer with
            cursor := next
            keyAllowed := lexer.keyAllowed || !lexer.inFlow }
      | none => lexer.moveTo cursor

/-! ## Directives -/

/-- Whether a character may stand in a name. -/
def isNameChar (char : Char) : Bool :=
  char.isAlphanum || char == '_' || char == '-'

/-- A name that is not empty. -/
def name? (cursor : Cursor) : Option (String × Cursor) :=
  let (chars, next) := cursor.takeWhile isNameChar
  if chars.isEmpty then none else some (String.ofList chars, next)

/-- A number of at most nine digits. -/
def number? (cursor : Cursor) : Option (Nat × Cursor) :=
  let (digits, next) := cursor.takeWhile Char.isDigit
  if digits.isEmpty || 9 < digits.length then none
  else some (Text.decimalValue digits 0, next)

/-- The place behind at least one blank. -/
def blanks? (cursor : Cursor) : Option Cursor :=
  if cursor.rest.head?.any isBlank then some (cursor.takeWhile isBlank).2 else none

/-- The handle of a tag: a name between exclamation marks, or a single mark. -/
def handle? (cursor : Cursor) : Option (String × Cursor) := do
  guard (cursor.rest.head? == some '!')
  let (name, next) := (cursor.skip 1).takeWhile isNameChar
  if next.rest.head? == some '!' then
    return (String.ofList ('!' :: name ++ ['!']), next.skip 1)
  else return (String.ofList ('!' :: name), next)

/-- Whether a character may stand in the name of a tag. -/
def isTagChar (inFlow : Bool) (char : Char) : Bool :=
  isNameChar char ||
    [';', '/', '?', ':', '@', '&', '=', '+', '$', '.', '%', '!', '~', '*', '\'', '(', ')'].contains
      char ||
    (!inFlow && [',', '[', ']'].contains char)

/-- The version that a document is written in. -/
def versionDirective? (cursor : Cursor) : Option (Token × Cursor) := do
  let (major, cursor) ← number? (cursor.takeWhile isBlank).2
  guard (cursor.rest.head? == some '.')
  let (minor, cursor) ← number? (cursor.skip 1)
  return (.version major minor, cursor)

/-- A shorthand for tags. -/
def tagDirective? (cursor : Cursor) : Option (Token × Cursor) := do
  let (handle, cursor) ← handle? (cursor.takeWhile isBlank).2
  guard (handle == "!" || (1 < handle.length && handle.endsWith "!"))
  let cursor ← blanks? cursor
  let (name, cursor) := cursor.takeWhile (isTagChar false)
  guard (!name.isEmpty && endsWord cursor.rest)
  return (.tagShorthand handle (String.ofList name), cursor)

/-- A directive, behind its percent sign. -/
def directive? (cursor : Cursor) : Option (Token × Cursor) := do
  let (name, cursor) ← name? cursor
  guard (endsWord cursor.rest)
  let (token, cursor) ←
    if name = "YAML" then versionDirective? cursor
    else if name = "TAG" then tagDirective? cursor
    else none
  return (token, ← cursor.endLine?)

/-! ## Tokens by their first character -/

/-- The name of an anchor, which an indicator may follow. -/
def anchorName? (cursor : Cursor) : Option (String × Cursor) := do
  let (name, next) ← name? cursor
  guard (endsWord next.rest ||
    next.rest.head?.any fun char => ['?', ':', ',', ']', '\x7d', '%', '@', '\x60'].contains char)
  return (name, next)

/-- A tag: in angle brackets as a whole, or a handle with what follows it. -/
def tagToken? (inFlow : Bool) (cursor : Cursor) : Option (Token × Cursor) := do
  let (token, next) ←
    match cursor.rest with
    | '!' :: '<' :: _ =>
        let (name, next) := (cursor.skip 2).takeWhile (isTagChar false)
        if name.isEmpty || next.rest.head? != some '>' then none
        else some (Token.tag "" (String.ofList name), next.skip 1)
    | _ => do
        let (handle, next) ← handle? cursor
        let (suffix, next) := next.takeWhile (isTagChar inFlow)
        if handle.length ≠ 1 && !handle.endsWith "!" then
          some (.tag "!" (String.ofList (handle.toList.drop 1 ++ suffix)), next)
        else if suffix.isEmpty && handle ≠ "!" then none
        else some (.tag handle (String.ofList suffix), next)
  guard (endsWord next.rest || (inFlow && next.rest.head? == some ','))
  return (token, next)

/-- Open a bracket. -/
def openFlow? (lexer : Lexer) (token : Token) : Option Lexer := do
  let lexer ← lexer.saveKey?
  let lexer := { lexer with pending := none, outer := lexer.pending :: lexer.outer }
  return (lexer.allowKey true).emitTo token (lexer.cursor.skip 1)

/-- Close a bracket. -/
def closeFlow? (lexer : Lexer) (token : Token) : Option Lexer := do
  let lexer ← lexer.dropKey?
  let lexer := match lexer.outer with
    | pending :: outer => { lexer with pending, outer }
    | [] => lexer
  return (lexer.allowKey false).emitTo token (lexer.cursor.skip 1)

/-- The comma between the entries of a collection in brackets. -/
def flowEntry? (lexer : Lexer) : Option Lexer := do
  let lexer ← lexer.dropKey?
  return (lexer.allowKey true).emitTo .flowEntry (lexer.cursor.skip 1)

/-- The dash before an entry of a block sequence. -/
def blockEntry? (lexer : Lexer) : Option Lexer := do
  guard (lexer.inFlow || lexer.keyAllowed)
  let lexer ← (lexer.openBlockHere .blockSequence).dropKey?
  return (lexer.allowKey true).emitTo .blockEntry (lexer.cursor.skip 1)

/-- The question mark before a key. -/
def key? (lexer : Lexer) : Option Lexer := do
  guard (lexer.inFlow || lexer.keyAllowed)
  let lexer ← (lexer.openBlockHere .blockMapping).dropKey?
  return (lexer.allowKey !lexer.inFlow).emitTo .key (lexer.cursor.skip 1)

/-- The colon before a value, which makes what may be a key one. -/
def value? (lexer : Lexer) : Option Lexer :=
  match lexer.pending with
  | some pending =>
      let marked := lexer.insertAt pending.position .key
      let opened := marked.openBlock pending.column pending.position .blockMapping
      let lexer := { opened with pending := none, keyAllowed := false }
      some (lexer.emitTo .value (lexer.cursor.skip 1))
  | none => do
      guard (lexer.inFlow || lexer.keyAllowed)
      let lexer := lexer.openBlockHere .blockMapping
      return (lexer.allowKey !lexer.inFlow).emitTo .value (lexer.cursor.skip 1)

/-- A token that may begin a key, read from the place on. -/
def node? (lexer : Lexer) (read : Cursor → Option (Token × Cursor)) : Option Lexer := do
  let lexer ← lexer.saveKey?
  let (token, next) ← read lexer.cursor
  return (lexer.allowKey false).emitTo token next

/-- A scalar between quotes. -/
def quoted? (quote : Char) (lexer : Lexer) : Option Lexer :=
  lexer.node? fun cursor =>
    (Scalar.quoted? quote cursor).map fun (text, next) => (.scalar .quoted text, next)

/-- A block of lines. -/
def block? (folded : Bool) (lexer : Lexer) : Option Lexer := do
  let lexer ← lexer.dropKey?
  let (text, next) ← Scalar.block? folded lexer.leastColumn lexer.cursor
  return (lexer.allowKey true).emitTo
    (.scalar (if folded then .folded else .literal) text) next

/-- A plain scalar.  A key may begin behind it on another line. -/
def plain? (lexer : Lexer) : Option Lexer := do
  let lexer ← lexer.saveKey?
  let plain ← Scalar.plain? lexer.inFlow lexer.leastColumn lexer.cursor
  return (lexer.allowKey plain.endsLine).emitTo (.scalar .plain plain.text) plain.next

/-- A line that begins or ends a document. -/
def marker? (lexer : Lexer) (token : Token) : Option Lexer := do
  let lexer ← lexer.closeAll?
  return lexer.emitTo token (lexer.cursor.skip 3)

/-- Read one token, where there is one. -/
def step? (lexer : Lexer) : Option Lexer :=
  let cursor := lexer.cursor
  if cursor.atMarker Cursor.documentStart then lexer.marker? .documentStart
  else if cursor.atMarker Cursor.documentEnd then lexer.marker? .documentEnd
  else
    match cursor.rest with
    | [] => none
    | char :: rest =>
      if char == '%' && cursor.column == 0 then do
        let lexer ← lexer.closeAll?
        let (token, next) ← directive? (cursor.skip 1)
        return lexer.emitTo token next
      else if char == '[' then lexer.openFlow? .flowSequence
      else if char == '\x7b' then lexer.openFlow? .flowMapping
      else if char == ']' then lexer.closeFlow? .flowSequenceEnd
      else if char == '\x7d' then lexer.closeFlow? .flowMappingEnd
      else if char == ',' then lexer.flowEntry?
      else if char == '-' && endsWord rest then lexer.blockEntry?
      else if char == '?' && (lexer.inFlow || endsWord rest) then lexer.key?
      else if char == ':' && (lexer.inFlow || endsWord rest) then lexer.value?
      else if char == '*' then
        lexer.node? fun cursor =>
          (anchorName? (cursor.skip 1)).map fun (name, next) => (.alias name, next)
      else if char == '&' then
        lexer.node? fun cursor =>
          (anchorName? (cursor.skip 1)).map fun (name, next) => (.anchor name, next)
      else if char == '!' then lexer.node? (tagToken? lexer.inFlow)
      else if char == '|' && !lexer.inFlow then lexer.block? false
      else if char == '>' && !lexer.inFlow then lexer.block? true
      else if char == '\'' || char == '"' then lexer.quoted? char
      else if Scalar.startsPlain lexer.inFlow (char :: rest) then lexer.plain?
      else none

/-- Close all blocks at the end of the text. -/
def finish? (lexer : Lexer) : Option (List Token) := do
  let lexer ← lexer.closeAll?
  return lexer.tokens.reverse

/-- Read tokens up to the end of the text; each takes at least one character. -/
def run? : Nat → Lexer → Option (List Token)
  | 0, _ => none
  | fuel + 1, lexer => do
      let lexer ← (lexer.skipSpace (lexer.cursor.rest.length + 1)).dropStale?
      if lexer.cursor.rest.isEmpty then lexer.finish?
      else
        let lexer ← (lexer.closeBlocks (some lexer.cursor.column)).step?
        run? fuel lexer

end Lexer

/-- The tokens of a text. -/
def Token.ofText? (text : String) : Option (List Token) :=
  if text.toList.any isForbidden then none
  else Lexer.run? (text.length + 2) (Lexer.ofText text)

end Tenancy.Yaml
