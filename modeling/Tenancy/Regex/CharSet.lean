import Tenancy.Text.Blank
import Tenancy.Text.CaseFold
import Tenancy.Text.CodePoints
import Tenancy.Text.Property

/-!
# Sets of characters in patterns

A set is the test for being in it, together with its weight: an estimate of the
bytes that a compiled pattern spends on one copy of the set.
-/

namespace Tenancy.Regex

/-- A set of code points with its weight. -/
structure CharSet where
  holds : Nat → Bool
  weight : Nat

namespace CharSet

/-- The weight of one range of code points. -/
def rangeWeight : Nat := 60

/-- The weight of one character. -/
def charWeight : Nat := 32

/-- The code points from a first to a last one. -/
def range (first last : Nat) : CharSet :=
  ⟨fun code => first ≤ code && code ≤ last, charWeight⟩

/-- One character. -/
def single (char : Char) : CharSet := range char.toNat char.toNat

/-- The code points in one of several ranges. -/
def ofCodePoints (set : Text.CodePoints) : CharSet :=
  ⟨set.containsCode, rangeWeight * set.ranges.length⟩

/-- The code points whose character passes a test. -/
def ofTest (test : Char → Bool) (weight : Nat) : CharSet :=
  ⟨fun code => test (Char.ofNat code), weight⟩

/-- The characters in one of the ranges between the given characters. -/
def ofRanges (ranges : List (Char × Char)) : CharSet :=
  ⟨fun code => ranges.any fun (first, last) => first.toNat ≤ code && code ≤ last.toNat,
    charWeight⟩

/-- No character. -/
def none : CharSet := ⟨fun _ => false, 0⟩

/-- The characters of either set. -/
def union (first second : CharSet) : CharSet :=
  ⟨fun code => first.holds code || second.holds code, first.weight + second.weight⟩

/-- The characters of both sets. -/
def intersection (first second : CharSet) : CharSet :=
  ⟨fun code => first.holds code && second.holds code, first.weight + second.weight⟩

/-- The characters of the first set that are not in the second. -/
def difference (first second : CharSet) : CharSet :=
  ⟨fun code => first.holds code && !second.holds code, first.weight + second.weight⟩

/-- The characters of exactly one of the sets. -/
def symmetricDifference (first second : CharSet) : CharSet :=
  ⟨fun code => first.holds code != second.holds code, first.weight + second.weight⟩

/-- The weight of a set that reaches over all planes. -/
def wideWeight : Nat := 450

/-- The characters that are not in a set. -/
def complement (set : CharSet) : CharSet :=
  ⟨fun code => !set.holds code, set.weight + wideWeight⟩

/-- The code points that equal an ASCII character without regard to case. -/
def asciiVariants (code : Nat) : List Nat :=
  if 0x41 ≤ code && code ≤ 0x5A then [code, code + 0x20]
  else if 0x61 ≤ code && code ≤ 0x7A then [code, code - 0x20]
  else [code]

/-- The characters that equal one of a set without regard to case. -/
def ignoringCase (unicode : Bool) (set : CharSet) : CharSet :=
  let variants (code : Nat) : List Nat :=
    if unicode then Text.unfoldCode (Text.foldCode code) else asciiVariants code
  ⟨fun code => (variants code).any set.holds, set.weight * 2⟩

/-- Any character but a line feed. -/
def notLineFeed : CharSet := complement (single '\n')

/-- Any character but a line feed or a carriage return. -/
def notLineEnd : CharSet := complement (union (single '\n') (single '\r'))

/-- Any character. -/
def all : CharSet := complement none

/-- The decimal digits. -/
def digits (unicode : Bool) : CharSet :=
  if unicode then ofTest Text.isDecimalDigit (64 * rangeWeight) else ofRanges [('0', '9')]

/-- The blanks. -/
def blanks (unicode : Bool) : CharSet :=
  if unicode then ofTest Text.isBlank (10 * rangeWeight)
  else ofRanges [('\t', '\r'), (' ', ' ')]

/-- Whether a character of ASCII may stand in a word. -/
def isAsciiWordChar (char : Char) : Bool := char.isAlphanum || char == '_'

/-- The characters of words. -/
def wordChars (unicode : Bool) : CharSet :=
  if unicode then ofTest Text.isWordChar (771 * rangeWeight) else ofTest isAsciiWordChar charWeight

/-- The classes of ASCII characters that have a name. -/
def asciiClasses : List (String × List (Char × Char)) :=
  [("alnum", [('0', '9'), ('A', 'Z'), ('a', 'z')]),
    ("alpha", [('A', 'Z'), ('a', 'z')]),
    ("ascii", [('\x00', '\x7f')]),
    ("blank", [('\t', '\t'), (' ', ' ')]),
    ("cntrl", [('\x00', '\x1f'), ('\x7f', '\x7f')]),
    ("digit", [('0', '9')]),
    ("graph", [('!', '~')]),
    ("lower", [('a', 'z')]),
    ("print", [(' ', '~')]),
    ("punct", [('!', '/'), (':', '@'), ('[', '\x60'), ('\x7b', '~')]),
    ("space", [('\t', '\r'), (' ', ' ')]),
    ("upper", [('A', 'Z')]),
    ("word", [('0', '9'), ('A', 'Z'), ('_', '_'), ('a', 'z')]),
    ("xdigit", [('0', '9'), ('A', 'F'), ('a', 'f')])]

end CharSet

end Tenancy.Regex
