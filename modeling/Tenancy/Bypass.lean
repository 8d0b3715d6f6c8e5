import Tenancy.Cluster.Lookup
import Tenancy.Glob
import Tenancy.Request

/-!
# Bypassing policies

A skipper decides whether a policy looks at a request at all.  It is a single
check or a choice among skippers, which are asked from left to right until one
skips or fails.
-/

namespace Tenancy

/-- Decides whether a policy is bypassed. -/
inductive Skipper where
  | leaf (check : Request → Lookup Bool)
  | anyOf (children : List Skipper)

namespace Skipper

mutual

/-- Whether a skipper skips a request. -/
def skip (request : Request) : Skipper → Lookup Bool
  | .leaf check => check request
  | .anyOf children => skipAny request children

/-- Whether one of several skippers skips a request; the ones behind the first
that skips or fails are not asked. -/
def skipAny (request : Request) : List Skipper → Lookup Bool
  | [] => pure false
  | child :: rest => do
      if ← skip request child then pure true else skipAny request rest

end

/-- The skipper with one answer. -/
def always (answer : Bool) : Skipper := .leaf fun _ => pure answer

instance : Inhabited Skipper := ⟨.always false⟩

end Skipper

/-- What the names of service accounts begin with when they make requests. -/
def serviceAccountPrefix : List Char := "system:serviceaccount:".toList

/-- The namespace and the name of the service account that a caller is. -/
def Caller.serviceAccount? (caller : Caller) : Option (String × String) :=
  let chars := caller.username.toList
  if serviceAccountPrefix.isPrefixOf chars then
    let account := chars.drop serviceAccountPrefix.length
    if account.contains ':' then
      some (String.ofList (account.takeWhile (· ≠ ':')),
        String.ofList ((account.dropWhile (· ≠ ':')).drop 1))
    else none
  else none

/-- Whether a subject denotes a caller: by the username, by a group, or as the
service account that the caller is. -/
def Subject.denotes (subject : Subject) (caller : Caller) : Bool :=
  if subject.kind = "User" then subject.name == caller.username
  else if subject.kind = "Group" then caller.isMemberOf subject.name
  else if subject.kind = "ServiceAccount" then
    caller.serviceAccount?.any fun (namespaceName, name) =>
      subject.namespaceName == some namespaceName && subject.name == name
  else false

/-- Whether a binding gives its role to a caller. -/
def RoleBinding.binds (binding : RoleBinding) (caller : Caller) : Bool :=
  binding.subjects.any (·.denotes caller)

/-- The role of a binding, with the namespace in which it is bound. -/
def RoleBinding.qualifiedRole (binding : RoleBinding) : String :=
  binding.metadata.namespaceName.getD "" ++ ":" ++ binding.role

/-- The callers that policies do not apply to. -/
structure Privileges where
  groups : Globs
  users : Globs
  /-- Globs over roles with their namespaces. -/
  roles : Globs
  clusterRoles : Globs
  deriving Repr, DecidableEq, Inhabited

namespace Privileges

/-- Whether a caller has a privileged role of the whole cluster. -/
def holdsClusterRole (privileges : Privileges) (caller : Caller) : Lookup Bool :=
  if privileges.clusterRoles.isEmpty then pure false
  else do
    let bindings ← Lookup.clusterRoleBindings
    return bindings.any fun binding =>
      binding.binds caller && privileges.clusterRoles.isMatch binding.role

/-- Whether a caller has a privileged role in a namespace, or in any if it has no
name. -/
def holdsRole (privileges : Privileges) (caller : Caller) (namespaceName : String) :
    Lookup Bool :=
  if privileges.roles.isEmpty then pure false
  else do
    let bindings ←
      Lookup.roleBindings (if namespaceName = "" then none else some namespaceName)
    return bindings.any fun binding =>
      binding.binds caller && privileges.roles.isMatch binding.qualifiedRole

/-- Whether a caller is privileged in a namespace.  Names are compared before any
role is looked up. -/
def covers (privileges : Privileges) (caller : Caller) (namespaceName : String) :
    Lookup Bool := do
  if caller.groups.any privileges.groups.isMatch then return true
  if privileges.users.isMatch caller.username then return true
  if ← privileges.holdsClusterRole caller then return true
  privileges.holdsRole caller namespaceName

end Privileges

namespace Skipper

/-- Skips the requests of privileged callers. -/
def privileged (privileges : Privileges) : Skipper :=
  .leaf fun request => privileges.covers request.caller request.namespaceName

/-- Skips requests in namespaces that belong to no organization.  The namespace
has to exist. -/
def outsideOrganizations (organizationLabel : String) : Skipper :=
  .leaf fun request => do
    let found ← Lookup.require Namespace none request.namespaceName
    return (found.metadata.label? organizationLabel).isNone

end Skipper

end Tenancy
