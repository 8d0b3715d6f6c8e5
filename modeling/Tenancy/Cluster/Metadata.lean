import Tenancy.Cluster.Normaliser

/-!
# Object metadata

What every object of the cluster carries: its names, its labels and its
annotations.  The readers here take a JSON value and give nothing where it does
not have the form of an object of the cluster: also the fields that are not kept
have to have their forms.
-/

namespace Tenancy

/-- The names, labels and annotations of an object. -/
structure Metadata where
  name : Option String
  generateName : Option String
  namespaceName : Option String
  labels : Option (SortedMap String)
  annotations : Option (SortedMap String)
  deriving Repr, DecidableEq

namespace Metadata

open Normaliser (each)

/-- Metadata that say nothing. -/
def empty : Metadata := ⟨none, none, none, none, none⟩

instance : Inhabited Metadata := ⟨empty⟩

/-- Who made which fields of an object what they are. -/
def managedFields : Normaliser :=
  .fields (each .text ["apiVersion", "fieldsType", "manager", "operation", "subresource"] ++
    [("fieldsV1", .any), ("time", .time)])

/-- The object that an object belongs to. -/
def owner : Normaliser :=
  .withTexts ["apiVersion", "kind", "name", "uid"] <|
    .fields (each .text ["apiVersion", "kind", "name", "uid"] ++
      each .bool ["blockOwnerDeletion", "controller"])

/-- The forms of the fields of metadata that are not kept. -/
def otherForms : List (String × Normaliser) :=
  each .text ["resourceVersion", "selfLink", "uid"] ++
    each .time ["creationTimestamp", "deletionTimestamp"] ++
    each (.integer 64) ["deletionGracePeriodSeconds", "generation"] ++
    [("finalizers", .listOf .text), ("managedFields", .listOf managedFields),
      ("ownerReferences", .listOf owner)]

/-- The metadata of an object with all their fields. -/
def normaliser : Normaliser :=
  .fields (each .text ["generateName", "name", "namespace"] ++
    each .textMap ["annotations", "labels"] ++ otherForms)

/-- Read metadata. -/
def ofJson? (json : Json) : Option Metadata := do
  let members ← json.object?
  guard (Normaliser.accepts otherForms members)
  let name ← Json.optional Json.text? members "name"
  let generateName ← Json.optional Json.text? members "generateName"
  let namespaceName ← Json.optional Json.text? members "namespace"
  let labels ← Json.optional Json.textMap? members "labels"
  let annotations ← Json.optional Json.textMap? members "annotations"
  return { name, generateName, namespaceName, labels, annotations }

/-- The name of an object, or else the name that one will be made from. -/
def anyName (metadata : Metadata) : String :=
  (metadata.name <|> metadata.generateName).getD ""

/-- The labels, none if they are absent. -/
def allLabels (metadata : Metadata) : SortedMap String := metadata.labels.getD .empty

/-- The annotations, none if they are absent. -/
def allAnnotations (metadata : Metadata) : SortedMap String := metadata.annotations.getD .empty

/-- The value of a label, which counts as absent if it is empty. -/
def label? (metadata : Metadata) (key : String) : Option String :=
  (metadata.allLabels.get? key).filter (· ≠ "")

end Metadata

/-- A kind of object as the cluster serves it. -/
structure Resource where
  group : String
  version : String
  kind : String
  plural : String
  deriving Repr, DecidableEq

namespace Resource

/-- The group and the version of a resource; the core group has no name. -/
def apiVersion (resource : Resource) : String :=
  if resource.group = "" then resource.version else resource.group ++ "/" ++ resource.version

/-- Whether what an object says about its own type agrees with a resource. -/
def agrees (resource : Resource) (members : List (String × Json)) : Bool :=
  let states (name expected : String) : Bool :=
    match Json.find? members name with
    | none => true
    | some value => value.text? == some expected
  states "apiVersion" resource.apiVersion && states "kind" resource.kind

/-- The members of an object of a resource, with its metadata. -/
def open? (resource : Resource) (json : Json) : Option (Metadata × List (String × Json)) := do
  let members ← json.object?
  guard (resource.agrees members)
  let metadata ← Json.optional Metadata.ofJson? members "metadata"
  return (metadata.getD .empty, members)

/-- The names of users, with what they prefer. -/
def user : Resource := ⟨"user.openshift.io", "v1", "User", "users"⟩

/-- Roles bound within a namespace. -/
def roleBinding : Resource := ⟨"rbac.authorization.k8s.io", "v1", "RoleBinding", "rolebindings"⟩

/-- Roles bound in the whole cluster. -/
def clusterRoleBinding : Resource :=
  ⟨"rbac.authorization.k8s.io", "v1", "ClusterRoleBinding", "clusterrolebindings"⟩

end Resource

/-- The types of objects that the cluster serves. -/
class Served (α : Type) where
  /-- The resource of the type. -/
  resource : Resource
  /-- Read an object of the type. -/
  ofJson? : Json → Option α
  /-- The metadata of an object. -/
  metadata : α → Metadata

end Tenancy
