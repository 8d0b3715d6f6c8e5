import Tenancy.Cluster.Binding
import Tenancy.Cluster.Object
import Tenancy.Failure

/-!
# Looking things up in the cluster

A cluster answers questions, and each answer may be a failure.  A look-up is a
computation that may ask several of them: it records the questions in the order
in which they are put and ends with the first failure.
-/

namespace Tenancy

universe u v

/-- A question that is put to the cluster, or to a check outside it. -/
inductive Call where
  | get (resource : Resource) (namespaceName : Option String) (name : String)
  | list (resource : Resource) (namespaceName selector : Option String)
  | roleBindings (namespaceName : Option String)
  | clusterRoleBindings
  | check (id : String)
  deriving Repr, DecidableEq

/-- The answers of a cluster. -/
structure Cluster where
  get : Resource → Option String → String → Except FetchFailure (Option Json)
  list : Resource → Option String → Option String → Except FetchFailure (List Json)
  roleBindings : Option String → Except FetchFailure (List RoleBinding)
  clusterRoleBindings : Except FetchFailure (List RoleBinding)

/-- What a look-up did and what came of it. -/
structure Outcome (α : Type u) where
  calls : List Call
  result : Except Failure α

/-- A computation that puts questions to a cluster. -/
def Lookup (α : Type u) : Type u := Cluster → Outcome α

namespace Lookup

variable {α : Type u} {β : Type v}

/-- Answer without a question. -/
def pure (value : α) : Lookup α := fun _ => ⟨[], .ok value⟩

/-- Go on with the answer of a look-up, unless it failed. -/
def bind {β : Type u} (first : Lookup α) (next : α → Lookup β) : Lookup β := fun cluster =>
  let outcome := first cluster
  match outcome.result with
  | .error failure => ⟨outcome.calls, .error failure⟩
  | .ok value =>
      let rest := next value cluster
      ⟨outcome.calls ++ rest.calls, rest.result⟩

instance : Monad Lookup where
  pure := pure
  bind := bind

/-- Fail without a question. -/
def fail (failure : Failure) : Lookup α := fun _ => ⟨[], .error failure⟩

/-- An answer that may be a failure. -/
def ofExcept (result : Except Failure α) : Lookup α := fun _ => ⟨[], result⟩

/-- Put one question. -/
def ask (call : Call) (answer : Cluster → Except FetchFailure α) : Lookup α := fun cluster =>
  ⟨[call], (answer cluster).mapError .fetch⟩

/-- Ask a check outside the cluster, whose answer is known. -/
def check (id : String) (answer : Except Failure α) : Lookup α := fun _ =>
  ⟨[.check id], answer⟩

end Lookup

/-- The name of an object, or of a list of objects, in a report. -/
def objectKey (namespaceName : Option String) (name : String) : String :=
  match namespaceName with
  | some namespaceName => namespaceName ++ "/" ++ name
  | none => name

/-- What stands for the names of all objects in a report. -/
def everyName : String := "*"

namespace Lookup

/-- Look an object up as it is stored. -/
def getRaw (resource : Resource) (namespaceName : Option String) (name : String) :
    Lookup (Option Json) :=
  ask (.get resource namespaceName name) fun cluster => cluster.get resource namespaceName name

/-- List objects as they are stored. -/
def listRaw (resource : Resource) (namespaceName selector : Option String) :
    Lookup (List Json) :=
  ask (.list resource namespaceName selector) fun cluster =>
    cluster.list resource namespaceName selector

/-- The bindings of roles in a namespace, or in all. -/
def roleBindings (namespaceName : Option String) : Lookup (List RoleBinding) :=
  ask (.roleBindings namespaceName) fun cluster => cluster.roleBindings namespaceName

/-- The bindings of roles in the whole cluster. -/
def clusterRoleBindings : Lookup (List RoleBinding) :=
  ask .clusterRoleBindings Cluster.clusterRoleBindings

/-- Read a stored value as an object of a type. -/
def decode (α : Type) [Served α] (key : String) (json : Json) : Except Failure α :=
  match Served.ofJson? json with
  | some object => .ok object
  | none => .error (.fetch (.undecodable (Served.resource α).kind key))

/-- Look an object of a type up. -/
def get? (α : Type) [Served α] (namespaceName : Option String) (name : String) :
    Lookup (Option α) := do
  match ← getRaw (Served.resource α) namespaceName name with
  | none => return none
  | some json => ofExcept ((decode α (objectKey namespaceName name) json).map some)

/-- Look an object of a type up that has to exist. -/
def require (α : Type) [Served α] (namespaceName : Option String) (name : String) :
    Lookup α := do
  match ← get? α namespaceName name with
  | some object => return object
  | none =>
      fail (.fetch (.missing (Served.resource α).kind (objectKey namespaceName name)))

/-- List the objects of a type. -/
def list (α : Type) [Served α] (namespaceName selector : Option String) :
    Lookup (List α) := do
  let values ← listRaw (Served.resource α) namespaceName selector
  ofExcept (values.mapM (decode α (objectKey namespaceName everyName)))

end Lookup

end Tenancy
