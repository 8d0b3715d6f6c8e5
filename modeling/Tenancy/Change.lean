import Tenancy.Glob
import Tenancy.Report
import Tenancy.SortedMap
import Tenancy.Text.Quoted

/-!
# Changes between two maps

A key has changed from one map to another if its look-up has: it came, it went,
or its value is another one.  Globs say which keys may change.
-/

namespace Tenancy

namespace SortedMap

/-- The keys whose look-up in an old map differs from that in a new one,
ascending. -/
def changedKeys {α : Type} [DecidableEq α] (old new : SortedMap α) : List String :=
  let gone := old.entries.filter fun (key, value) => new.get? key ≠ some value
  let come := new.entries.filter fun (key, _) => !old.contains key
  (ofList (gone ++ come)).keys

/-- The entries of a new map that are not in an old one. -/
def changedEntries {α : Type} [DecidableEq α] (old new : SortedMap α) : SortedMap α :=
  new.filter fun key value => old.get? key ≠ some value

/-- The entries of a map of texts, quoted. -/
def quoted (map : SortedMap String) : String :=
  let entries := map.entries.map fun (key, value) => Text.quoted key ++ ": " ++ Text.quoted value
  "\x7b" ++ ", ".intercalate entries ++ "\x7d"

end SortedMap

/-- Keys that changed between two maps although no glob allows it. -/
structure ForbiddenChange where
  keys : List String
  allowed : List String
  old : SortedMap String
  new : SortedMap String
  deriving Repr, DecidableEq

instance : Described ForbiddenChange where
  message change :=
    "the following keys are not allowed to be changed: " ++ ", ".intercalate change.keys ++
      "; allowed keys: [" ++ ", ".intercalate change.allowed ++ "]; old: " ++
      change.old.quoted ++ ", new: " ++ change.new.quoted

/-- The keys that changed although no glob allows it, if there are any. -/
def Globs.forbiddenChange? (globs : Globs) (old new : SortedMap String) :
    Option ForbiddenChange :=
  let keys := (SortedMap.changedKeys old new).filter fun key => !globs.isMatch key
  if keys.isEmpty then none else some ⟨keys, globs.patterns, old, new⟩

end Tenancy
