import Tenancy.Regex.Bracket
import Tenancy.Width

/-!
# Reading patterns

A pattern is read from left to right with a stack of the groups that are open.
Reading gives nothing where the pattern is malformed, or where its compiled form
would be too large or too deeply nested.
-/

namespace Tenancy.Regex

/-- A part of a branch: a regular expression with the depth of its nesting, or a
place where flags are set. -/
inductive Part where
  | regex (value : Regex) (depth : Nat)
  | flags

/-- A group that is open: its finished branches and the parts of the branch that
is being read, the last one first, and the flags to return to at its end. -/
structure Group where
  before : Flags
  branches : List (Regex × Nat)
  parts : List Part

/-- What is known of a pattern at a place in it. -/
structure State where
  flags : Flags
  group : Group
  outer : List Group
  names : List (List Char)

/-- The state at the beginning of a pattern. -/
def State.initial : State :=
  { flags := Flags.initial, group := ⟨Flags.initial, [], []⟩, outer := [], names := [] }

/-- The regular expressions among some parts, with their depths. -/
def regexes (parts : List Part) : List (Regex × Nat) :=
  parts.filterMap fun
    | .regex value depth => some (value, depth)
    | .flags => none

/-- The depth of a node over the given ones; a single part needs no node. -/
def depthOver (parts : Nat) (depths : List Nat) : Nat :=
  depths.foldl max 0 + (if parts ≤ 1 then 0 else 1)

/-- The branch that is being read, as a regular expression. -/
def Group.branch (group : Group) : Regex × Nat :=
  let read := (regexes group.parts).reverse
  (sequence (read.map (·.1)), depthOver group.parts.length (read.map (·.2)))

/-- All branches of a group, as a regular expression. -/
def Group.close (group : Group) : Regex × Nat :=
  let branches := (group.branch :: group.branches).reverse
  (choice (branches.map (·.1)), depthOver branches.length (branches.map (·.2)))

/-- Add a part to the branch that is being read. -/
def State.push (state : State) (part : Part) : State :=
  { state with group := { state.group with parts := part :: state.group.parts } }

/-- Add a regular expression without parts of its own. -/
def State.pushLeaf (state : State) (regex : Regex) : State := state.push (.regex regex 0)

/-- Begin the next branch of a group. -/
def State.nextBranch (state : State) : State :=
  { state with
    group := { state.group with
      branches := state.group.branch :: state.group.branches, parts := [] } }

/-- Open a group with the flags that hold in it. -/
def State.openGroup (state : State) (inside : Flags) : State :=
  { state with
    flags := inside, group := ⟨state.flags, [], []⟩, outer := state.group :: state.outer }

/-- Close the innermost group. -/
def State.closeGroup (state : State) : Option State :=
  match state.outer with
  | [] => none
  | parent :: outer =>
      let (regex, depth) := state.group.close
      some { state with
        flags := state.group.before
        group := { parent with parts := .regex regex (depth + 1) :: parent.parts }
        outer := outer }

/-- Repeat the last part; there has to be one, and it may not be a place where
flags are set. -/
def State.repeatLast (state : State) (least : Nat) (most : Option Nat) : Option State :=
  match state.group.parts with
  | .regex body depth :: parts =>
      some { state with
        group := { state.group with
          parts := .regex (.repeated body least most) (depth + 1) :: parts } }
  | _ => none

/-- Whether a character may stand in the name of a group. -/
def isNameChar (first : Bool) (char : Char) : Bool :=
  char == '_' || Text.alphabetic.holds char ||
    (!first && (char == '.' || char == '[' || char == ']' || Text.isNumeric char))

/-- The name of a group and the input behind it. -/
def groupName (input : List Char) : Option (List Char × List Char) :=
  let name := input.takeWhile (· ≠ '>')
  match name, input.dropWhile (· ≠ '>') with
  | first :: others, '>' :: rest =>
      if isNameChar true first && others.all (isNameChar false) then some (name, rest) else none
  | _, _ => none

/-- Open a group that has a name, which no other group may have. -/
def State.openNamed (state : State) (input : List Char) : Option (State × List Char) :=
  (groupName input).bind fun (name, rest) =>
    if state.names.contains name then none
    else some ({ state with names := name :: state.names }.openGroup state.flags, rest)

/-- Open a group, or set flags, behind an opening parenthesis. -/
def State.openParenthesis (state : State) (input : List Char) : Option (State × List Char) :=
  match input with
  | '?' :: '=' :: _ => none
  | '?' :: '!' :: _ => none
  | '?' :: '<' :: '=' :: _ => none
  | '?' :: '<' :: '!' :: _ => none
  | '?' :: 'P' :: '<' :: rest => state.openNamed rest
  | '?' :: '<' :: rest => state.openNamed rest
  | '?' :: rest =>
      match state.flags.read false [] rest with
      | some (flags, ':' :: rest) => some (state.openGroup flags, rest)
      | some (flags, ')' :: behind) =>
          if rest.head? == some ')' then none
          else some ({ state with flags := flags }.push .flags, behind)
      | _ => none
  | rest => some (state.openGroup state.flags, rest)

/-- The input behind a mark of laziness. -/
def skipLazy : List Char → List Char
  | '?' :: rest => rest
  | rest => rest

/-- A count: digits with blanks around them, if it fits in 32 bits. -/
def count (flags : Flags) (input : List Char) : Option (Nat × List Char) :=
  let input := input.dropWhile Text.isBlank
  let digits := input.takeWhile Char.isDigit
  let rest := (flags.skip (input.dropWhile Char.isDigit)).dropWhile Text.isBlank
  let value := Text.decimalValue digits 0
  if !digits.isEmpty && Width.fitsUnsigned 32 value then some (value, flags.skip rest) else none

/-- The limits of a repetition between braces and the input behind them. -/
def limits (flags : Flags) (input : List Char) : Option (Nat × Option Nat × List Char) := do
  let (least, rest) ← count flags (flags.skip input)
  match rest with
  | '\x7d' :: rest => return (least, some least, rest)
  | ',' :: rest =>
      match flags.skip rest with
      | '\x7d' :: rest => return (least, none, rest)
      | rest =>
          match ← count flags rest with
          | (most, '\x7d' :: rest) =>
              if least ≤ most then return (least, some most, rest) else none
          | _ => none
  | _ => none

/-- The regular expression of one character. -/
def Flags.literal (flags : Flags) (char : Char) : Regex :=
  if flags.unicode || char.toNat < 0x80 then .one (flags.fold (CharSet.single char))
  else .one (CharSet.single char)

/-- The set of the dot. -/
def Flags.dot (flags : Flags) : Option CharSet :=
  if !flags.unicode then none
  else if flags.dotMatchesAll then some CharSet.all
  else if flags.carriage then some CharSet.notLineEnd
  else some CharSet.notLineFeed

/-- The condition at the beginning of a text or a line. -/
def Flags.start (flags : Flags) : Look :=
  if !flags.multiLine then .startText
  else if flags.carriage then .startLineCarriage else .startLine

/-- The condition at the end of a text or a line. -/
def Flags.stop (flags : Flags) : Look :=
  if !flags.multiLine then .endText
  else if flags.carriage then .endLineCarriage else .endLine

/-- Read the next part of a pattern. -/
def State.step (state : State) : List Char → Option (State × List Char)
  | [] => none
  | '(' :: rest => state.openParenthesis (state.flags.skip rest)
  | ')' :: rest => state.closeGroup.map (·, rest)
  | '|' :: rest => some (state.nextBranch, rest)
  | '[' :: rest =>
      (Bracket.ofInput state.flags rest).map fun (set, rest) =>
        (state.push (.regex (.one set) 1), rest)
  | '?' :: rest => (state.repeatLast 0 (some 1)).map (·, skipLazy rest)
  | '*' :: rest => (state.repeatLast 0 none).map (·, skipLazy rest)
  | '+' :: rest => (state.repeatLast 1 none).map (·, skipLazy rest)
  | '\x7b' :: rest =>
      (limits state.flags rest).bind fun (least, most, rest) =>
        (state.repeatLast least most).map (·, skipLazy (state.flags.skip rest))
  | '\\' :: rest =>
      (escape state.flags rest).bind fun
        | (.char char, rest) => some (state.pushLeaf (state.flags.literal char), rest)
        | (.byte char, rest) =>
            if state.flags.unicode || char.toNat < 0x80 then
              some (state.pushLeaf (state.flags.literal char), rest)
            else none
        | (.set set, rest) => some (state.pushLeaf (.one set), rest)
        | (.look condition, rest) => some (state.pushLeaf (.look condition), rest)
  | '.' :: rest => state.flags.dot.map fun set => (state.pushLeaf (.one set), rest)
  | '^' :: rest => some (state.pushLeaf (.look state.flags.start), rest)
  | '$' :: rest => some (state.pushLeaf (.look state.flags.stop), rest)
  | char :: rest => some (state.pushLeaf (state.flags.literal char), rest)

/-- Read a pattern from a place in it to its end. -/
def State.run : Nat → State → List Char → Option State
  | 0, _, _ => none
  | fuel + 1, state, input =>
      match state.flags.skip input with
      | [] => some state
      | input => (state.step input).bind fun (state, rest) => State.run fuel state rest

/-- The greatest depth of groups, repetitions and lists of parts. -/
def depthLimit : Nat := 250

/-- Read a pattern. -/
def parse? (pattern : String) : Option Regex := do
  let input := pattern.toList
  let state ← State.initial.run (input.length + 1) input
  guard state.outer.isEmpty
  let (regex, depth) := state.group.close
  guard (depth ≤ depthLimit && regex.size ≤ sizeLimit)
  return regex

end Tenancy.Regex
