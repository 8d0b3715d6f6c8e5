import Tenancy.Regex.CharSet

/-!
# Regular expressions

The form of a pattern once flags, escapes and classes are resolved.  Whether a
pattern matches does not depend on greed or on groups, so neither is kept.
-/

namespace Tenancy

/-- A condition on the place between two characters. -/
inductive Regex.Look where
  | startText
  | endText
  | startLine
  | endLine
  | startLineCarriage
  | endLineCarriage
  | wordBoundary (unicode : Bool)
  | notWordBoundary (unicode : Bool)
  | wordStart (unicode : Bool)
  | wordEnd (unicode : Bool)
  | wordStartHalf (unicode : Bool)
  | wordEndHalf (unicode : Bool)
  deriving Repr, DecidableEq

/-- A regular expression. -/
inductive Regex where
  | empty
  | one (set : Regex.CharSet)
  | look (look : Regex.Look)
  | seq (first second : Regex)
  | either (first second : Regex)
  | repeated (body : Regex) (least : Nat) (most : Option Nat)

namespace Regex

/-- The regular expressions one after the other. -/
def sequence : List Regex → Regex
  | [] => .empty
  | [regex] => regex
  | first :: rest => .seq first (sequence rest)

/-- Any of the regular expressions. -/
def choice : List Regex → Regex
  | [] => .empty
  | [regex] => regex
  | first :: rest => .either first (choice rest)

/-- The bytes of a compiled state. -/
def stateSize : Nat := 32

/-- An estimate of the size of the compiled pattern, in which every repetition
is written out. -/
def size : Regex → Nat
  | .empty => stateSize
  | .one set => max stateSize set.weight
  | .look _ => stateSize
  | .seq first second => first.size + second.size
  | .either first second => first.size + second.size + stateSize
  | .repeated body least most => body.size * max 1 (most.getD least)

/-- The size that a compiled pattern may not exceed. -/
def sizeLimit : Nat := 10 * Nat.pow 2 20

end Regex

end Tenancy
