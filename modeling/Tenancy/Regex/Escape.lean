import Tenancy.Regex.Property
import Tenancy.Regex.Syntax
import Tenancy.Text.Digits

/-!
# Flags and escapes

The flags that change how a pattern is read, and what stands behind a backslash:
a character, a set of characters or a condition on a place.  Reading gives
nothing where the pattern is malformed.
-/

namespace Tenancy.Regex

/-- The flags in force at a place of a pattern. -/
structure Flags where
  ignoreCase : Bool
  multiLine : Bool
  dotMatchesAll : Bool
  carriage : Bool
  unicode : Bool
  verbose : Bool
  deriving Repr, DecidableEq

/-- The flags at the beginning of a pattern. -/
def Flags.initial : Flags := ⟨false, false, false, false, true, false⟩

/-- Set the flag with a letter; greed has a flag without effect. -/
def Flags.set (flags : Flags) (on : Bool) : Char → Option Flags
  | 'i' => some { flags with ignoreCase := on }
  | 'm' => some { flags with multiLine := on }
  | 's' => some { flags with dotMatchesAll := on }
  | 'R' => some { flags with carriage := on }
  | 'u' => some { flags with unicode := on }
  | 'x' => some { flags with verbose := on }
  | 'U' => some flags
  | _ => none

/-- The flags after a group of letters up to its end, with the input from the
end on.  Every letter may stand once, the dash too, and not at the end. -/
def Flags.read : Flags → Bool → List Char → List Char → Option (Flags × List Char)
  | _, _, _, [] => none
  | flags, negated, seen, char :: rest =>
      if char == ':' || char == ')' then
        if seen.head? == some '-' then none else some (flags, char :: rest)
      else if seen.contains char then none
      else if char == '-' then Flags.read flags true (char :: seen) rest
      else
        (flags.set (!negated) char).bind fun flags =>
          Flags.read flags negated (char :: seen) rest

/-- Skip blanks and comments. -/
def skipIgnored (inComment : Bool) : List Char → List Char
  | [] => []
  | char :: rest =>
      if inComment then skipIgnored (char != '\n') rest
      else if Text.isBlank char then skipIgnored false rest
      else if char == '#' then skipIgnored true rest
      else char :: rest

/-- The input behind what does not count in verbose mode. -/
def Flags.skip (flags : Flags) (input : List Char) : List Char :=
  if flags.verbose then skipIgnored false input else input

/-- What an escape stands for.  A byte is a character that is written by the two
digits of its number. -/
inductive Escape where
  | char (value : Char)
  | byte (value : Char)
  | set (value : CharSet)
  | look (value : Look)

/-- The characters with a meaning in patterns, which a backslash takes away. -/
def isMeta (char : Char) : Bool :=
  "\\.+*?()|[]\x7b\x7d^$#&-~".toList.contains char

/-- Whether a backslash may stand before a character that means itself. -/
def isEscapable (char : Char) : Bool :=
  isMeta char || (char.toNat < 0x80 && !char.isAlphanum && char != '<' && char != '>')

/-- The character with a number, unless the number is no character. -/
def charOf? (code : Nat) : Option Char :=
  if code.isValidChar then some (Char.ofNat code) else none

/-- A number of hexadecimal digits, with what is skipped between them. -/
def fixedDigits (flags : Flags) : Nat → List Char → Option (List Char × List Char)
  | 0, input => some ([], input)
  | count + 1, input =>
      match input with
      | [] => none
      | char :: rest =>
          if (Text.hexDigit? char).isNone then none
          else
            let behind := if count = 0 then rest else flags.skip rest
            (fixedDigits flags count behind).map fun (digits, input) => (char :: digits, input)

/-- The characters up to a closing brace, less what is skipped in verbose mode,
and the input behind the brace. -/
def bracedText (flags : Flags) : Nat → List Char → Option (List Char × List Char)
  | 0, _ => none
  | fuel + 1, input =>
      match flags.skip input with
      | [] => none
      | '\x7d' :: rest => some ([], rest)
      | char :: rest => (bracedText flags fuel rest).map fun (text, input) => (char :: text, input)

/-- A character written by its number: in braces, or by a fixed number of
digits. -/
def numbered (flags : Flags) (digits : Nat) (input : List Char) :
    Option (Escape × List Char) :=
  match flags.skip input with
  | '\x7b' :: rest => do
      let (text, rest) ← bracedText flags (rest.length + 1) rest
      guard (!text.isEmpty && text.all fun char => (Text.hexDigit? char).isSome)
      let char ← charOf? (Text.hexValue text)
      return (.char char, rest)
  | rest => do
      let (text, rest) ← fixedDigits flags digits rest
      let char ← charOf? (Text.hexValue text)
      return (if digits = 2 then .byte char else .char char, rest)

/-- A set, or the characters outside it.  Without Unicode the characters outside
a set are not characters but bytes, which no pattern for texts may match. -/
def negatable (flags : Flags) (negated : Bool) (set : CharSet) : Option CharSet :=
  if !negated then some set
  else if flags.unicode then some set.complement
  else none

/-- A set, closed under letter case if case is ignored. -/
def Flags.fold (flags : Flags) (set : CharSet) : CharSet :=
  if flags.ignoreCase then set.ignoringCase flags.unicode else set

/-- The characters with a property, which is named by one letter or in
braces. -/
def propertySet (flags : Flags) (negated : Bool) (input : List Char) :
    Option (Escape × List Char) := do
  guard flags.unicode
  let (named, rest) ← match flags.skip input with
    | [] => none
    | '\x7b' :: rest =>
        (bracedText flags (rest.length + 1) rest).bind fun (text, rest) =>
          (Property.described? text).map (·, rest)
    | char :: rest => (Property.named? [char]).map (·, rest)
  let allowed ← negatable flags negated (flags.fold named)
  return (Escape.set allowed, rest)

/-- The conditions on words that have a name in braces. -/
def namedBoundaries (unicode : Bool) : List (String × Look) :=
  [("start", .wordStart unicode), ("end", .wordEnd unicode),
    ("start-half", .wordStartHalf unicode), ("end-half", .wordEndHalf unicode)]

/-- Whether a character may stand in the name of a condition. -/
def isBoundaryNameChar (char : Char) : Bool := char.isAlpha || char == '-'

/-- The letters of the name of a condition, less what is skipped in verbose
mode, and the input from the first other character on. -/
def boundaryName (flags : Flags) : Nat → List Char → List Char × List Char
  | 0, input => ([], input)
  | fuel + 1, input =>
      match input with
      | [] => ([], [])
      | char :: rest =>
          if isBoundaryNameChar char then
            let (name, behind) := boundaryName flags fuel (flags.skip rest)
            (char :: name, behind)
          else ([], char :: rest)

/-- The condition behind the letter for a word boundary: a brace with letters
behind it names a special one, and any other brace is a repetition. -/
def boundary (flags : Flags) (input : List Char) : Option (Escape × List Char) :=
  match input with
  | '\x7b' :: behind =>
      match flags.skip behind with
      | [] => none
      | first :: rest =>
          if isBoundaryNameChar first then
            match boundaryName flags (rest.length + 1) (first :: rest) with
            | (name, '\x7d' :: rest) =>
                ((namedBoundaries flags.unicode).find? (·.1.toList == name)).map
                  fun (_, condition) => (Escape.look condition, rest)
            | _ => none
          else some (.look (.wordBoundary flags.unicode), input)
  | _ => some (.look (.wordBoundary flags.unicode), input)

/-- What stands behind a backslash. -/
def escape (flags : Flags) : List Char → Option (Escape × List Char)
  | [] => none
  | 'x' :: rest => numbered flags 2 rest
  | 'u' :: rest => numbered flags 4 rest
  | 'U' :: rest => numbered flags 8 rest
  | 'p' :: rest => propertySet flags false rest
  | 'P' :: rest => propertySet flags true rest
  | 'd' :: rest => some (.set (CharSet.digits flags.unicode), rest)
  | 's' :: rest => some (.set (CharSet.blanks flags.unicode), rest)
  | 'w' :: rest => some (.set (CharSet.wordChars flags.unicode), rest)
  | 'D' :: rest => (negatable flags true (CharSet.digits flags.unicode)).map (.set ·, rest)
  | 'S' :: rest => (negatable flags true (CharSet.blanks flags.unicode)).map (.set ·, rest)
  | 'W' :: rest => (negatable flags true (CharSet.wordChars flags.unicode)).map (.set ·, rest)
  | 'a' :: rest => some (.char '\x07', rest)
  | 'f' :: rest => some (.char '\x0c', rest)
  | 't' :: rest => some (.char '\t', rest)
  | 'n' :: rest => some (.char '\n', rest)
  | 'r' :: rest => some (.char '\r', rest)
  | 'v' :: rest => some (.char '\x0b', rest)
  | 'A' :: rest => some (.look .startText, rest)
  | 'z' :: rest => some (.look .endText, rest)
  | 'b' :: rest => boundary flags rest
  | 'B' :: rest => some (.look (.notWordBoundary flags.unicode), rest)
  | '<' :: rest => some (.look (.wordStart flags.unicode), rest)
  | '>' :: rest => some (.look (.wordEnd flags.unicode), rest)
  | char :: rest => if isEscapable char then some (.char char, rest) else none

end Tenancy.Regex
