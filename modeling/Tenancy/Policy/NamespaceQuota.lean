import Tenancy.Policy.Basic
import Tenancy.Text.Quoted

/-!
# The number of namespaces of an organization

An organization may have a limited number of namespaces.  The limit can be
overridden for an organization by a count in a map of configuration texts.
-/

namespace Tenancy

/-- How many namespaces an organization may have. -/
structure NamespaceLimit where
  organizationLabel : String
  default : Nat
  /-- The namespace that holds the overrides. -/
  overrideNamespace : Option String
  deriving Repr, DecidableEq, Inhabited

namespace NamespaceLimit

/-- The name of the map that holds the override for an organization. -/
def overrideName (organization : String) : String := "override-" ++ organization

/-- The key of an override. -/
def overrideKey : String := "namespaceQuota"

/-- The limit that an override sets. -/
def readOverride (namespaceName name value : String) : Except Failure Nat :=
  match Count.parse (Text.trim value.toList) with
  | .ok count => .ok count
  | .error fault =>
      .error (.during ("invalid " ++ overrideKey ++ " " ++ Text.quoted value ++ " in " ++
        namespaceName ++ "/" ++ name) (.count fault))

/-- The limit for an organization. -/
def forOrganization (limit : NamespaceLimit) (organization : String) : Lookup Nat :=
  match limit.overrideNamespace with
  | none => pure limit.default
  | some namespaceName => do
      let name := overrideName organization
      let found ← Lookup.get? ConfigMap (some namespaceName) name
      match (found.bind (·.data)).bind (·.get? overrideKey) with
      | some value => Lookup.ofExcept (readOverride namespaceName name value)
      | none => pure limit.default

/-- Decide on one more namespace of an organization. -/
def decideCount (organization : String) (count quota : Nat) : Verdict :=
  if quota ≤ count then
    .deny ("organization " ++ Text.quoted organization ++ " already has " ++ toString count ++
      " namespaces and may not have more than " ++ toString quota ++
      "; contact support to raise the quota")
  else .allowed (toString count ++ " of " ++ toString quota ++ " namespaces used")

end NamespaceLimit

/-- Limits the number of namespaces of each organization. -/
def Policy.namespaceQuota (skipper : Skipper) (limit : NamespaceLimit) : Policy Namespace where
  name := "namespace-quota"
  skipper := skipper
  decode := Served.ofJson?
  decide request states :=
    if request.operation ≠ .create then
      pure (.allowed "only creations count against the quota")
    else
      match states.new.bind (·.metadata.label? limit.organizationLabel) with
      | none => pure (.allowed "namespace belongs to no organization")
      | some organization => do
          let selector := limit.organizationLabel ++ "=" ++ organization
          let siblings ← Lookup.list Namespace none (some selector)
          let quota ← limit.forOrganization organization
          return NamespaceLimit.decideCount organization siblings.length quota

end Tenancy
