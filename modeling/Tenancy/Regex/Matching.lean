import Tenancy.Regex.Syntax

/-!
# Matching

A set of places in a text is a number whose bits are the places: bit `i` stands
for the place in front of character `i`.  A pattern takes the set of places where
a match may begin to the set of places where it may end, so that no place is
visited twice for one part of the pattern.
-/

namespace Tenancy.Regex

/-- Whether a character may stand in a word. -/
def isWordChar (unicode : Bool) (char : Char) : Bool :=
  if unicode then Text.isWordChar char else CharSet.isAsciiWordChar char

/-- Whether a condition holds between two characters; at an end of the text there
is none. -/
def Look.holds (before after : Option Char) : Look → Bool
  | .startText => before.isNone
  | .endText => after.isNone
  | .startLine => before.isNone || before == some '\n'
  | .endLine => after.isNone || after == some '\n'
  | .startLineCarriage =>
      before.isNone || before == some '\n' || (before == some '\r' && after != some '\n')
  | .endLineCarriage =>
      after.isNone || after == some '\r' || (after == some '\n' && before != some '\r')
  | .wordBoundary unicode => before.any (isWordChar unicode) != after.any (isWordChar unicode)
  | .notWordBoundary unicode => before.any (isWordChar unicode) == after.any (isWordChar unicode)
  | .wordStart unicode => !before.any (isWordChar unicode) && after.any (isWordChar unicode)
  | .wordEnd unicode => before.any (isWordChar unicode) && !after.any (isWordChar unicode)
  | .wordStartHalf unicode => !before.any (isWordChar unicode)
  | .wordEndHalf unicode => !after.any (isWordChar unicode)

/-- The places in front of a character of a set. -/
def placesOf (set : CharSet) : List Char → Nat
  | [] => 0
  | char :: rest => (if set.holds char.toNat then 1 else 0) + 2 * placesOf set rest

/-- The places where a condition holds, behind a character that stands before the
text. -/
def placesWhere (look : Look) (before : Option Char) : List Char → Nat
  | [] => if look.holds before none then 1 else 0
  | char :: rest =>
      (if look.holds before (some char) then 1 else 0) + 2 * placesWhere look (some char) rest

/-- All places of a text. -/
def allPlaces (text : List Char) : Nat := Nat.pow 2 (text.length + 1) - 1

/-- Apply a step a number of times, as long as there are places. -/
def iterate (step : Nat → Nat) : Nat → Nat → Nat
  | 0, places => places
  | count + 1, places => if places = 0 then 0 else iterate step count (step places)

/-- Collect the places of up to a number of steps. -/
def collect (step : Nat → Nat) : Nat → Nat → Nat → Nat
  | 0, _, collected => collected
  | count + 1, places, collected =>
      let next := step places
      if next = 0 then collected else collect step count next (collected ||| next)

/-- Collect the places of any number of steps, each of which adds a place or is
the last one. -/
def closure (step : Nat → Nat) : Nat → Nat → Nat
  | 0, places => places
  | fuel + 1, places =>
      let next := places ||| step places
      if next = places then places else closure step fuel next

/-- The places where a match of a pattern may end when it begins at one of the
given places. -/
def ends (text : List Char) : Regex → Nat → Nat
  | .empty, places => places
  | .one set, places => (places &&& placesOf set text) <<< 1
  | .look condition, places => places &&& placesWhere condition none text
  | .seq first second, places => ends text second (ends text first places)
  | .either first second, places => ends text first places ||| ends text second places
  | .repeated body least most, places =>
      let begun := iterate (ends text body) least places
      match most with
      | none => closure (ends text body) (text.length + 1) begun
      | some most => collect (ends text body) (most - least) begun begun

/-- Whether a pattern matches somewhere in a text. -/
def isMatch (regex : Regex) (text : String) : Bool :=
  ends text.toList regex (allPlaces text.toList) != 0

end Tenancy.Regex
