import Tenancy.Cluster.Lookup

/-!
# Snapshots of a cluster

A cluster whose content is known: a list of objects and bindings, and the kinds
of objects that cannot be read.
-/

namespace Tenancy

/-- An object with the place where it is stored. -/
structure StoredObject where
  kind : String
  namespaceName : String
  name : String
  value : Json
  deriving Repr, Inhabited

/-- The content of a cluster. -/
structure Snapshot where
  objects : List StoredObject
  failing : List String
  roleBindings : List RoleBinding
  clusterRoleBindings : List RoleBinding
  deriving Repr, Inhabited

namespace Snapshot

/-- What names every kind among the failing ones. -/
def everyKind : String := "*"

/-- An answer about a kind, unless the kind cannot be read. -/
def answer {α : Type} (snapshot : Snapshot) (kind : String) (value : α) :
    Except FetchFailure α :=
  if snapshot.failing.contains kind || snapshot.failing.contains everyKind then
    .error (.unavailable kind everyName "connection refused")
  else .ok value

/-- Whether an object carries the label that a selector of the form `key=value`
asks for. -/
def selects (selector : String) (value : Json) : Bool :=
  let key := String.ofList (selector.toList.takeWhile (· ≠ '='))
  let wanted := String.ofList ((selector.toList.dropWhile (· ≠ '=')).drop 1)
  let label := ((value.member? "metadata").bind (·.member? "labels")).bind (·.member? key)
  label.bind Json.text? == some wanted

/-- The cluster with the content of a snapshot. -/
def toCluster (snapshot : Snapshot) : Cluster where
  get resource namespaceName name :=
    snapshot.answer resource.kind <|
      (snapshot.objects.find? fun object =>
        object.kind == resource.kind && object.namespaceName == namespaceName.getD "" &&
          object.name == name).map StoredObject.value
  list resource namespaceName selector :=
    snapshot.answer resource.kind <|
      (snapshot.objects.filter fun object =>
        object.kind == resource.kind && namespaceName.all (· == object.namespaceName) &&
          selector.all (selects · object.value)).map StoredObject.value
  roleBindings namespaceName :=
    snapshot.answer Resource.roleBinding.kind <|
      snapshot.roleBindings.filter fun binding =>
        namespaceName.all fun name => binding.metadata.namespaceName == some name
  clusterRoleBindings :=
    snapshot.answer Resource.clusterRoleBinding.kind snapshot.clusterRoleBindings

end Snapshot

end Tenancy
