import Tenancy.Cluster.Object
import Tenancy.Quantity.Binary

/-!
# The ratio of memory to CPU

The requests of workloads are added up, and the ratio of the requested memory to
the requested CPU is rounded up to whole mebibytes.  The totals are exact; a
request below zero adds nothing to them.
-/

namespace Tenancy

/-- The requests of one container: CPU in cores and memory in bytes. -/
structure Demand where
  cpu : Decimal
  memory : Decimal
  deriving Repr, DecidableEq, Inhabited

namespace Demand

/-- Read the requests of a container, CPU first; a request that is absent is
zero. -/
def ofContainer (container : Container) : Except Quantity.Invalid Demand := do
  let request (resource : String) : Option String := container.requests.bind (·.get? resource)
  let cpu ← Quantity.parseOrZero (request "cpu")
  let memory ← Quantity.parseOrZero (request "memory")
  return ⟨cpu, memory⟩

/-- Read the requests of all containers of a pod. -/
def ofPodSpec (spec : PodSpec) : Except Quantity.Invalid (List Demand) :=
  spec.containers.mapM ofContainer

end Demand

/-- The total requests of some workloads. -/
structure Ratio where
  cpu : Decimal
  memory : Decimal
  deriving Repr, DecidableEq, Inhabited

namespace Ratio

/-- The totals of no workload. -/
def zero : Ratio := ⟨Decimal.zero, Decimal.zero⟩

/-- Add a request to a total a number of times, if it is above zero. -/
def addTimes (total : Decimal) (count : Nat) (request : Decimal) : Decimal :=
  if request.isPositive then total + request.times count else total

/-- Add the requests of one container a number of times. -/
def addDemand (count : Nat) (ratio : Ratio) (demand : Demand) : Ratio :=
  ⟨addTimes ratio.cpu count demand.cpu, addTimes ratio.memory count demand.memory⟩

/-- Add the requests of some containers a number of times. -/
def record (ratio : Ratio) (count : Nat) (demands : List Demand) : Ratio :=
  demands.foldl (addDemand count) ratio

/-- Add the requests of a pod a number of times; all of them have to be
quantities. -/
def recordPodSpec (ratio : Ratio) (count : Nat) (spec : PodSpec) :
    Except Quantity.Invalid Ratio :=
  (Demand.ofPodSpec spec).map (ratio.record count)

/-- The phase of a pod that is running. -/
def runningPhase : String := "Running"

/-- Add the requests of a pod that exists; only running pods count. -/
def recordPod (ratio : Ratio) (pod : Pod) : Except Quantity.Invalid Ratio :=
  if pod.phase = some runningPhase then
    match pod.spec with
    | some spec => ratio.recordPodSpec 1 spec
    | none => .ok ratio
  else .ok ratio

end Ratio

/-- The number of replicas that are asked for: one if nothing is said, and none
for a number below zero. -/
def ReplicaSpec.count (spec : ReplicaSpec) : Nat :=
  match spec.replicas with
  | none => 1
  | some replicas => replicas.toNat

namespace Ratio

/-- Add the requests of all replicas of a workload. -/
def recordReplicas (ratio : Ratio) (spec : Option ReplicaSpec) :
    Except Quantity.Invalid Ratio :=
  match spec with
  | none => .ok ratio
  | some spec =>
      match spec.template with
      | some template => ratio.recordPodSpec spec.count template
      | none => .ok ratio

/-- The bytes of one mebibyte. -/
def mebibyte : Nat := Nat.pow 2 20

/-- The bytes of memory for each core, rounded to whole bytes and then up to
whole mebibytes.  Without CPU there is no ratio. -/
def perCore? (ratio : Ratio) : Option Int :=
  if !ratio.cpu.isPositive then none
  else
    let bytes := (ratio.memory / ratio.cpu).roundHalfEven
    some ((Decimal.ofInt bytes / Decimal.ofInt mebibyte).ceiling * mebibyte)

/-- Whether the ratio is below a limit; without CPU it never is. -/
def isBelow (ratio : Ratio) (limit : Decimal) : Bool :=
  match ratio.perCore? with
  | some bytes => (Decimal.ofInt bytes).isBelow limit
  | none => false

/-- The ratio as text. -/
def text (ratio : Ratio) : String :=
  match ratio.perCore? with
  | some bytes => Quantity.formatBinary (Decimal.ofInt bytes) ++ "/core"
  | none => "n/a (no CPU requested)"

/-- Where the limit on the ratio is explained. -/
def explanation : String := "https://docs.appuio.cloud/user/references/fair-use-policy.html"

/-- A warning about the ratio, in one line. -/
def warning (ratio : Ratio) (limit : Option Decimal) : String :=
  let current := "Current memory to CPU ratio of " ++ ratio.text ++ " in this namespace"
  match limit with
  | some limit =>
      current ++ " is below the fair use ratio of " ++ Quantity.formatBinary limit ++
        "/core. This can lead to additional costs, see " ++ explanation
  | none => current

end Ratio

end Tenancy
