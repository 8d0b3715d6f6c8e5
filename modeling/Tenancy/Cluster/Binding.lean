import Tenancy.Cluster.Metadata

/-!
# Role bindings

A binding gives a role to subjects: users, groups and service accounts.  A
binding of the whole cluster has no namespace.
-/

namespace Tenancy

/-- Someone whom a binding names. -/
structure Subject where
  kind : String
  name : String
  namespaceName : Option String
  deriving Repr, DecidableEq

/-- A role with the subjects that hold it. -/
structure RoleBinding where
  metadata : Metadata
  role : String
  subjects : List Subject
  deriving Repr, DecidableEq

/-- Read a subject. -/
def Subject.ofJson? (json : Json) : Option Subject := do
  let members ← json.object?
  let _ ← Json.optional Json.text? members "apiGroup"
  let kind ← Json.optional Json.text? members "kind"
  let name ← Json.optional Json.text? members "name"
  let namespaceName ← Json.optional Json.text? members "namespace"
  return ⟨kind.getD "", name.getD "", namespaceName⟩

/-- Read the name of the role that a binding refers to. -/
def RoleBinding.role? (json : Json) : Option String := do
  let members ← json.object?
  let _ ← Json.optional Json.text? members "apiGroup"
  let _ ← Json.optional Json.text? members "kind"
  let name ← Json.optional Json.text? members "name"
  return name.getD ""

/-- Read a binding of a resource. -/
def RoleBinding.ofJson? (resource : Resource) (json : Json) : Option RoleBinding := do
  let (metadata, members) ← resource.open? json
  let role ← Json.optional RoleBinding.role? members "roleRef"
  let subjects ← Json.optional (Json.listOf? Subject.ofJson?) members "subjects"
  return ⟨metadata, role.getD "", subjects.getD []⟩

end Tenancy
