import Tenancy.Regex.Matching
import Tenancy.Regex.Parser
import Tenancy.Report
import Tenancy.SortedMap
import Tenancy.Text.Quoted

/-!
# Allow lists

An allow list holds pairs of patterns, one for a key and one for its value.  A
key and its value are allowed if both match the patterns of one pair, so an empty
list allows nothing.
-/

namespace Tenancy

/-- A pair of compiled patterns. -/
structure AllowRule where
  key : Regex
  value : Regex

/-- Pairs of patterns, any of which may allow a key and its value. -/
structure AllowList where
  rules : List AllowRule

/-- Which of the two patterns of a pair. -/
inductive AllowList.Side where
  | key
  | value
  deriving Repr, DecidableEq

/-- Why a pair of patterns is not accepted, or a key and its value not allowed. -/
inductive AllowList.Fault where
  | malformed (side : AllowList.Side) (pattern : String)
  | notAllowed (key value : String)
  deriving Repr, DecidableEq

namespace AllowList

/-- The word for one of the two patterns. -/
def Side.name : Side → String
  | .key => "key"
  | .value => "value"

/-- The description of a pattern that cannot be read. -/
def malformedPattern : String := "malformed pattern"

instance : Described Fault where
  message
    | .malformed side pattern =>
        "invalid " ++ side.name ++ " pattern " ++ Text.quoted pattern ++ ": " ++ malformedPattern
    | .notAllowed key value => key ++ "=" ++ Text.quoted value ++ " is not allowed"

/-- The list that allows nothing. -/
def empty : AllowList := ⟨[]⟩

/-- Anchor a pattern at both ends of a text and compile it. -/
def anchored (side : Side) (pattern : String) : Except Fault Regex :=
  match Regex.parse? ("^(?:" ++ pattern ++ ")$") with
  | some regex => .ok regex
  | none => .error (.malformed side pattern)

/-- Add a pair of patterns; nothing is added unless both can be read. -/
def add (list : AllowList) (key value : String) : Except Fault AllowList := do
  let key ← anchored .key key
  let value ← anchored .value value
  return ⟨list.rules ++ [⟨key, value⟩]⟩

/-- Add several pairs of patterns, up to the first that cannot be read. -/
def addAll (list : AllowList) (pairs : List (String × String)) : Except Fault AllowList :=
  pairs.foldlM (fun list (key, value) => list.add key value) list

/-- Whether a key and its value are allowed by one pair. -/
def allows (list : AllowList) (key value : String) : Bool :=
  list.rules.any fun rule => rule.key.isMatch key && rule.value.isMatch value

/-- Check a key and its value. -/
def validate (list : AllowList) (key value : String) : Except Fault Unit :=
  if list.allows key value then .ok () else .error (.notAllowed key value)

/-- Check every entry of a map and report all that are not allowed. -/
def validateAll (list : AllowList) (pairs : SortedMap String) : Report Fault :=
  ⟨(pairs.entries.filter fun (key, value) => !list.allows key value).map
    fun (key, value) => .notAllowed key value⟩

/-- The number of pairs. -/
def size (list : AllowList) : Nat := list.rules.length

/-- Whether there is no pair. -/
def isEmpty (list : AllowList) : Bool := list.rules.isEmpty

end AllowList

end Tenancy
