import Tenancy.Glob
import Tenancy.Policy.Basic
import Tenancy.Text.Quoted

/-!
# Reserved names

Globs reserve names for each kind of object.  Objects with a reserved name may
not be created, updated or deleted.
-/

namespace Tenancy

/-- Decide on an object with a name. -/
def Globs.decideName (reserved : Globs) (request : Request) (name : String) : Verdict :=
  if reserved.isMatch name then
    .deny (request.kind ++ " " ++ Text.quoted name ++
      " uses a reserved name and may not be " ++ request.operation.pastTense)
  else .allowed "name is not reserved"

/-- Keeps names that are reserved for a kind from use. -/
def Policy.reservedNames (skipper : Skipper) (byKind : SortedMap Globs) : Policy AnyObject where
  name := "reserved-names"
  skipper := skipper
  decode := AnyObject.ofJson?
  decide request states :=
    match byKind.get? request.kind with
    | none => pure (.allowed ("no reserved " ++ request.kind ++ " names"))
    | some reserved =>
        let name := (states.current.bind (·.metadata.name)).getD request.name
        pure (reserved.decideName request name)

end Tenancy
