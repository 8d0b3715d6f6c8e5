import Tenancy.Policy.Basic
import Tenancy.Text.Quoted

/-!
# The organization of a namespace

A label says to which organization a namespace belongs.  Only members of an
organization may put a namespace in it, and no one may move it to another.  A new
namespace without the label goes to the organization that its creator prefers.
-/

namespace Tenancy

/-- Where the organization of a namespace and the one that a user prefers are
written. -/
structure OrganizationRules where
  label : String
  defaultAnnotation : String
  deriving Repr, DecidableEq, Inhabited

namespace OrganizationRules

/-- The organization of a namespace. -/
def organizationOf (rules : OrganizationRules) (found : Option Namespace) : Option String :=
  found.bind (·.metadata.label? rules.label)

/-- The organization that a stored user prefers. -/
def preferredBy (rules : OrganizationRules) (user : Json) : Option String :=
  let annotations := (user.member? "metadata").bind (·.member? "annotations")
  ((annotations.bind (·.member? rules.defaultAnnotation)).bind Json.text?).filter (· ≠ "")

/-- The organization that a user prefers, if there is such a user. -/
def defaultFor (rules : OrganizationRules) (username : String) : Lookup (Option String) := do
  let user ← Lookup.getRaw Resource.user none username
  return user.bind rules.preferredBy

/-- Label a namespace with an organization; a namespace without labels gets an
empty map of them first. -/
def labelOperations (rules : OrganizationRules) (created : Namespace) (organization : String) :
    List PatchOperation :=
  let label := PatchOperation.addAt ["metadata", "labels", rules.label] (.text organization)
  if created.metadata.labels.isNone then
    [.addAt ["metadata", "labels"] (.object []), label]
  else [label]

/-- Decide on a namespace that names an organization. -/
def decideNamed (caller : Caller) (organization : String) : Verdict :=
  if caller.isMemberOf organization then .allowed ("user is a member of " ++ organization)
  else
    .deny ("user " ++ caller.username ++ " is not a member of organization " ++
      Text.quoted organization)

/-- Decide on a namespace that names none, given the one that its creator
prefers. -/
def decideDefault (rules : OrganizationRules) (caller : Caller) (created : Namespace) :
    Option String → Verdict
  | none =>
      .deny ("namespace has no " ++ rules.label ++ " label and user " ++ caller.username ++
        " has no default organization")
  | some organization =>
      if caller.isMemberOf organization then
        .patched ("defaulted organization to " ++ organization)
          (rules.labelOperations created organization)
      else
        .deny ("user " ++ caller.username ++ " is not a member of default organization " ++
          Text.quoted organization)

/-- Decide on a namespace whose organization is known. -/
def decideKept (rules : OrganizationRules) (old : String) (new : Option String) : Verdict :=
  if new = some old then .allowed "organization unchanged"
  else
    .deny ("the organization of a namespace cannot be changed: " ++ rules.label ++ " was " ++
      Text.quoted old ++ ", is " ++ Text.quoted (new.getD ""))

/-- Decide on a namespace. -/
def decide (rules : OrganizationRules) (request : Request) (states : States Namespace) :
    Lookup Verdict :=
  match states.new with
  | none => pure (.allowed "deletion")
  | some created =>
      let owner := if request.operation = .update then rules.organizationOf states.old else none
      match owner, rules.organizationOf states.new with
      | some old, new => pure (rules.decideKept old new)
      | none, some organization => pure (decideNamed request.caller organization)
      | none, none =>
          if request.operation = .create then do
            let preferred ← rules.defaultFor request.caller.username
            return rules.decideDefault request.caller created preferred
          else pure (.allowed "namespace has no organization")

end OrganizationRules

/-- Puts every namespace in an organization of its creator, for good. -/
def Policy.organization (skipper : Skipper) (rules : OrganizationRules) : Policy Namespace where
  name := "organization"
  skipper := skipper
  decode := Served.ofJson?
  decide := rules.decide

end Tenancy
