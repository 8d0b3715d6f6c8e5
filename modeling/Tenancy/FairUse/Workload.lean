import Tenancy.FairUse.Ratio
import Tenancy.Report
import Tenancy.Text.Quoted

/-!
# Workloads

The objects whose requests count towards the ratio, and the pods that belong to
them.
-/

namespace Tenancy

/-- An object that runs pods. -/
inductive Workload where
  | pod (object : Pod)
  | deployment (object : Deployment)
  | statefulSet (object : StatefulSet)
  deriving Repr, DecidableEq

/-- Why an object is not read as a workload. -/
inductive Workload.Fault where
  | unsupported (kind : String)
  | malformed
  deriving Repr, DecidableEq

namespace Workload

instance : Described Fault where
  message
    | .unsupported kind => "unsupported workload kind " ++ Text.quoted kind
    | .malformed => "malformed workload"

/-- Read the workload that an object says it is; one that does not say has the
empty kind. -/
def ofJson (json : Json) : Except Fault Workload :=
  let kind := ((json.member? "kind").bind Json.text?).getD ""
  let read {α : Type} (decoded : Option α) (workload : α → Workload) : Except Fault Workload :=
    match decoded with
    | some object => .ok (workload object)
    | none => .error .malformed
  if kind = "Pod" then read (Served.ofJson? json) pod
  else if kind = "Deployment" then read (Served.ofJson? json) deployment
  else if kind = "StatefulSet" then read (Served.ofJson? json) statefulSet
  else .error (.unsupported kind)

/-- Read the workload that an object says it is. -/
def ofJson? (json : Json) : Option Workload := (ofJson json).toOption

/-- The metadata of a workload. -/
def metadata : Workload → Metadata
  | .pod object => object.metadata
  | .deployment object => object.metadata
  | .statefulSet object => object.metadata

/-- The labels that the pods of a workload with replicas carry, if it says. -/
def matchLabels : Workload → Option (SortedMap String)
  | .pod _ => none
  | .deployment object => object.spec.bind (·.matchLabels)
  | .statefulSet object => object.spec.bind (·.matchLabels)

/-- Whether a pod carries all of some labels. -/
def carries (candidate : Pod) (labels : SortedMap String) : Bool :=
  labels.entries.all fun (key, value) => candidate.metadata.allLabels.get? key == some value

/-- Whether a pod is a workload with a given name, or one of its replicas.  A
workload that does not say which labels its pods carry owns none. -/
def owns (workload : Workload) (name : String) (candidate : Pod) : Bool :=
  match workload with
  | .pod _ => candidate.metadata.anyName == name
  | _ =>
    match workload.matchLabels with
    | some labels => !labels.isEmpty && carries candidate labels
    | none => false

/-- Add the requests of a workload to the totals. -/
def record (workload : Workload) (ratio : Ratio) : Except Quantity.Invalid Ratio :=
  match workload with
  | .pod object =>
      match object.spec with
      | some spec => ratio.recordPodSpec 1 spec
      | none => .ok ratio
  | .deployment object => ratio.recordReplicas object.spec
  | .statefulSet object => ratio.recordReplicas object.spec

end Workload

end Tenancy
