import Tenancy.Regex.Escape

/-!
# Bracketed classes

A class in brackets lists characters, ranges, named classes and further classes
in brackets, and combines such lists by set operations from left to right.
Reading gives nothing where the class is malformed.
-/

namespace Tenancy.Regex.Bracket

/-- An operation on two sets. -/
inductive Operation where
  | intersection
  | difference
  | symmetricDifference
  deriving Repr, DecidableEq

/-- Apply an operation. -/
def Operation.apply (first second : CharSet) : Operation → CharSet
  | .intersection => first.intersection second
  | .difference => first.difference second
  | .symmetricDifference => first.symmetricDifference second

/-- A bracket that is open: whether it is negated, the operation that waits for
its second set, and the union of what is listed so far. -/
structure Level where
  negated : Bool
  waiting : Option (CharSet × Operation)
  listed : CharSet

/-- The set of a level, less the operation on the whole bracket. -/
def Level.combined (flags : Flags) (level : Level) : CharSet :=
  match level.waiting with
  | none => level.listed
  | some (first, operation) => operation.apply (flags.fold first) (flags.fold level.listed)

/-- The set of a level whose bracket is closed. -/
def Level.close (flags : Flags) (level : Level) : Option CharSet :=
  negatable flags level.negated (flags.fold (level.combined flags))

/-- Add a set to what a level lists. -/
def Level.add (level : Level) (set : CharSet) : Level :=
  { level with listed := level.listed.union set }

/-- Let an operation wait for its second set. -/
def Level.wait (flags : Flags) (level : Level) (operation : Operation) : Level :=
  { level with waiting := some (level.combined flags, operation), listed := CharSet.none }

/-- Dashes at the beginning of a class stand for themselves. -/
def leadingDashes (flags : Flags) : Nat → Level → List Char → Level × List Char
  | 0, level, input => (level, input)
  | fuel + 1, level, input =>
      match input with
      | '-' :: rest =>
          leadingDashes flags fuel (level.add (CharSet.single '-')) (flags.skip rest)
      | rest => (level, rest)

/-- A level behind an opening bracket and the input behind its beginning. -/
def openLevel (flags : Flags) (input : List Char) : Option (Level × List Char) :=
  let (negated, input) :=
    match flags.skip input with
    | '^' :: rest => (true, flags.skip rest)
    | rest => (false, rest)
  match leadingDashes flags input.length ⟨negated, none, CharSet.none⟩ input with
  | (_, []) => none
  | (level, ']' :: rest) =>
      if input.head? == some '-' then some (level, ']' :: rest)
      else some (level.add (CharSet.single ']'), flags.skip rest)
  | (level, rest) => some (level, rest)

/-- A named class of ASCII characters behind its opening bracket, if the input is
one. -/
def named? (flags : Flags) (input : List Char) : Option (Option CharSet × List Char) :=
  match input with
  | ':' :: rest =>
      let (negated, rest) := match rest with
        | '^' :: rest => (true, rest)
        | rest => (false, rest)
      let name := rest.takeWhile (· ≠ ':')
      match rest.dropWhile (· ≠ ':') with
      | ':' :: ']' :: rest =>
          (CharSet.asciiClasses.find? (·.1.toList == name)).map fun (_, ranges) =>
            (negatable flags negated (flags.fold (CharSet.ofRanges ranges)), rest)
      | _ => none
  | _ => none

/-- An item of a class: a character or a set, and the input behind it. -/
inductive Item where
  | char (value : Char)
  | set (value : CharSet)

/-- The character of a literal, if the class may hold it: without Unicode only
ASCII has a place. -/
def literal (flags : Flags) (char : Char) : Option Item :=
  if flags.unicode || char.toNat < 0x80 then some (.char char) else none

/-- Read a character or an escape. -/
def item (flags : Flags) : List Char → Option (Item × List Char)
  | [] => none
  | '\\' :: rest =>
      match escape flags rest with
      | some (.char char, rest) => (literal flags char).map (·, rest)
      | some (.byte char, rest) => (literal flags char).map (·, rest)
      | some (.set set, rest) => some (.set set, rest)
      | _ => none
  | char :: rest => (literal flags char).map (·, rest)

/-- Read a character, an escape or a range. -/
def range (flags : Flags) (input : List Char) : Option (CharSet × List Char) := do
  let (first, rest) ← item flags input
  let alone : CharSet := match first with
    | .char char => CharSet.single char
    | .set set => set
  match flags.skip rest with
  | [] => none
  | '-' :: behind =>
      match flags.skip behind with
      | [] => none
      | ']' :: _ => return (alone, flags.skip rest)
      | '-' :: _ => return (alone, flags.skip rest)
      | behind =>
          match first, ← item flags behind with
          | .char first, (.char last, rest) =>
              if first.toNat ≤ last.toNat then
                return (CharSet.range first.toNat last.toNat, rest)
              else none
          | _, _ => none
  | rest => return (alone, rest)

/-- Read a class from behind its opening bracket on, with the brackets around it
that are open. -/
def read (flags : Flags) : Nat → List Level → Level → List Char → Option (CharSet × List Char)
  | 0, _, _, _ => none
  | fuel + 1, outer, level, input =>
      match flags.skip input with
      | [] => none
      | '[' :: rest =>
          match named? flags rest with
          | some (set, rest) => set.bind fun set => read flags fuel outer (level.add set) rest
          | none =>
              (openLevel flags rest).bind fun (inner, rest) =>
                read flags fuel (level :: outer) inner rest
      | ']' :: rest =>
          (level.close flags).bind fun set =>
            match outer with
            | [] => some (set, rest)
            | parent :: outer => read flags fuel outer (parent.add set) rest
      | '&' :: '&' :: rest => read flags fuel outer (level.wait flags .intersection) rest
      | '-' :: '-' :: rest => read flags fuel outer (level.wait flags .difference) rest
      | '~' :: '~' :: rest => read flags fuel outer (level.wait flags .symmetricDifference) rest
      | input =>
          (range flags input).bind fun (set, rest) => read flags fuel outer (level.add set) rest

/-- Read a class from behind its first bracket on. -/
def ofInput (flags : Flags) (input : List Char) : Option (CharSet × List Char) :=
  (openLevel flags input).bind fun (level, rest) =>
    read flags (2 * input.length + 2) [] level rest

end Tenancy.Regex.Bracket
