import Mathlib.Algebra.BigOperators.Group.List.Basic
import Tenancy.Proofs.Decimal.Basic
import Tenancy.Proofs.FairUse.Workload

/-!
# What totals stand for

The totals of some workloads are the exact sums of what their containers request, where a
request below zero counts as none.  The order in which containers are added up does not
matter.
-/

namespace Tenancy

/-! ## Requests -/

/-- What a container requests of a resource: nothing if it does not say. -/
def Container.request (resource : String) (container : Container) : Decimal :=
  match (container.requests.bind (·.get? resource)).map Quantity.parse with
  | some (.ok amount) => amount
  | _ => .zero

/-- What a container requests. -/
def Container.demand (container : Container) : Demand :=
  ⟨container.request "cpu", container.request "memory"⟩

/-- What the containers of a pod request. -/
def PodSpec.demands (spec : PodSpec) : List Demand := spec.containers.map Container.demand

/-- What the containers of a pod request, if it is to run any. -/
def Pod.demands (pod : Pod) : List Demand := pod.spec.toList.flatMap PodSpec.demands

/-- How much a container adds to the total of a resource. -/
def Container.requested (resource : String) (container : Container) : ℚ :=
  max 0 (container.request resource).toRat

/-- How much the containers of a pod add to the total of a resource. -/
def PodSpec.requested (resource : String) (spec : PodSpec) : ℚ :=
  (spec.containers.map (Container.requested resource)).sum

/-- How much a pod adds to the total of a resource. -/
def Pod.requested (resource : String) (pod : Pod) : ℚ :=
  (pod.spec.map (PodSpec.requested resource)).getD 0

section Sums

variable {part : Demand → Decimal} {resource : String}

theorem PodSpec.sum_demands
    (isPart : ∀ container : Container, part container.demand = container.request resource)
    (spec : PodSpec) :
    (spec.demands.map fun demand => max 0 (part demand).toRat).sum = spec.requested resource := by
  rw [demands, List.map_map, requested]
  exact congrArg (fun amount => (spec.containers.map amount).sum)
    (funext fun container => by rw [Function.comp_apply, isPart, Container.requested])

theorem PodSpec.sum_toList_demands
    (isPart : ∀ container : Container, part container.demand = container.request resource)
    (spec : Option PodSpec) :
    ((spec.toList.flatMap demands).map fun demand => max 0 (part demand).toRat).sum =
      (spec.map (requested resource)).getD 0 := by
  cases spec with
  | none => rfl
  | some spec =>
      rw [Option.toList_some, List.flatMap_singleton]
      exact sum_demands isPart spec

/-- Some pods add to the total of a resource what each of them does. -/
theorem Pod.sum_demands
    (isPart : ∀ container : Container, part container.demand = container.request resource)
    (pods : List Pod) :
    ((pods.flatMap demands).map fun demand => max 0 (part demand).toRat).sum =
      (pods.map (requested resource)).sum := by
  induction pods with
  | nil => rfl
  | cons pod rest ih =>
      rw [List.flatMap_cons, List.map_append, List.sum_append, ih, List.map_cons, List.sum_cons]
      exact congrArg (· + _) (PodSpec.sum_toList_demands isPart pod.spec)

end Sums

namespace Demand

theorem parseOrZero_eq_ok {container : Container} {resource : String} {amount : Decimal}
    (isRead : Quantity.parseOrZero (container.requests.bind (·.get? resource)) = .ok amount) :
    amount = container.request resource := by
  unfold Container.request
  cases found : container.requests.bind (·.get? resource) with
  | none =>
      rw [found] at isRead
      exact (Except.ok.inj isRead).symm
  | some text =>
      rw [found, Quantity.parseOrZero] at isRead
      rw [Option.map_some, isRead]

theorem ofContainer_eq_ok {container : Container} {demand : Demand}
    (isRead : ofContainer container = .ok demand) : demand = container.demand := by
  unfold ofContainer at isRead
  cases cpuRead : Quantity.parseOrZero (container.requests.bind (·.get? "cpu")) with
  | error fault => simp [cpuRead, bind, Except.bind] at isRead
  | ok cpu =>
      cases memoryRead : Quantity.parseOrZero (container.requests.bind (·.get? "memory")) with
      | error fault => simp [cpuRead, memoryRead, bind, Except.bind] at isRead
      | ok memory =>
          simp only [cpuRead, memoryRead, bind, Except.bind, pure, Except.pure,
            Except.ok.injEq] at isRead
          rw [← isRead, Container.demand, ← parseOrZero_eq_ok cpuRead,
            ← parseOrZero_eq_ok memoryRead]

/-- The requests of a pod are read as what its containers request. -/
theorem ofPodSpec_eq_ok {spec : PodSpec} {demands : List Demand}
    (isRead : ofPodSpec spec = .ok demands) : demands = spec.demands := by
  rw [ofPodSpec, Lookup.mapM_eq_ok_iff] at isRead
  rw [PodSpec.demands]
  generalize spec.containers = containers at isRead
  induction containers generalizing demands with
  | nil => exact List.map_eq_nil_iff.mp isRead.symm
  | cons container rest ih =>
      cases demands with
      | nil => cases isRead
      | cons demand others =>
          obtain ⟨headRead, restRead⟩ := List.cons.inj isRead
          rw [List.map_cons, ih restRead, ofContainer_eq_ok headRead]

end Demand

namespace Ratio

/-! ## Sums -/

/-- Add requests to a total one by one, each a number of times. -/
def addAll (count : Nat) (total : Decimal) (requests : List Decimal) : Decimal :=
  requests.foldl (fun total request => addTimes total count request) total

theorem cpu_record (ratio : Ratio) (count : Nat) (demands : List Demand) :
    (ratio.record count demands).cpu = addAll count ratio.cpu (demands.map (·.cpu)) := by
  induction demands generalizing ratio with
  | nil => rfl
  | cons demand rest ih => exact ih _

theorem memory_record (ratio : Ratio) (count : Nat) (demands : List Demand) :
    (ratio.record count demands).memory = addAll count ratio.memory (demands.map (·.memory)) := by
  induction demands generalizing ratio with
  | nil => rfl
  | cons demand rest ih => exact ih _

theorem toRat_addTimes (total : Decimal) (count : Nat) (request : Decimal) :
    (addTimes total count request).toRat = total.toRat + count * max 0 request.toRat := by
  unfold addTimes
  split
  next positive =>
    have above := (request.isPositive_iff).mp positive
    rw [Decimal.toRat_add, Decimal.toRat_times, max_eq_right above.le]
  next notPositive =>
    have notAbove := not_lt.mp (mt request.isPositive_iff.mpr notPositive)
    rw [max_eq_left notAbove, mul_zero, add_zero]

/-- A total is the exact sum of the requests above zero. -/
theorem toRat_addAll (count : Nat) (total : Decimal) (requests : List Decimal) :
    (addAll count total requests).toRat =
      total.toRat + count * (requests.map fun request => max 0 request.toRat).sum := by
  induction requests generalizing total with
  | nil => simp [addAll]
  | cons request rest ih =>
      rw [List.map_cons, List.sum_cons, mul_add, ← add_assoc, ← toRat_addTimes]
      exact ih _

theorem toRat_cpu_record (ratio : Ratio) (count : Nat) (demands : List Demand) :
    (ratio.record count demands).cpu.toRat =
      ratio.cpu.toRat + count * (demands.map fun demand => max 0 demand.cpu.toRat).sum := by
  rw [cpu_record, toRat_addAll, List.map_map]
  rfl

theorem toRat_memory_record (ratio : Ratio) (count : Nat) (demands : List Demand) :
    (ratio.record count demands).memory.toRat =
      ratio.memory.toRat + count * (demands.map fun demand => max 0 demand.memory.toRat).sum := by
  rw [memory_record, toRat_addAll, List.map_map]
  rfl

/-! ## Orders -/

theorem coefficient_times_nonneg {request : Decimal} (positive : request.isPositive = true)
    (count : Nat) : 0 ≤ (request.times count).coefficient := by
  rw [Decimal.coefficient_nonneg_iff, Decimal.toRat_times]
  exact mul_nonneg (Nat.cast_nonneg count) (request.isPositive_iff.mp positive).le

/-- A total does not fall below zero. -/
theorem coefficient_addTimes_nonneg {total : Decimal} (nonneg : 0 ≤ total.coefficient)
    (count : Nat) (request : Decimal) : 0 ≤ (addTimes total count request).coefficient := by
  unfold addTimes
  split
  next positive =>
    exact Decimal.coefficient_add_nonneg nonneg (coefficient_times_nonneg positive count)
  next => exact nonneg

theorem addTimes_right_comm {total : Decimal} (nonneg : 0 ≤ total.coefficient)
    (count other : Nat) (first second : Decimal) :
    addTimes (addTimes total count first) other second =
      addTimes (addTimes total other second) count first := by
  unfold addTimes
  by_cases firstPositive : first.isPositive = true
  · by_cases secondPositive : second.isPositive = true
    · simp only [firstPositive, secondPositive, if_true]
      exact Decimal.add_right_comm_of_nonneg nonneg
        (coefficient_times_nonneg firstPositive count)
        (coefficient_times_nonneg secondPositive other)
    · simp only [secondPositive]
      rfl
  · simp only [firstPositive]
    rfl

/-- A total does not depend on the order of the requests. -/
theorem addAll_perm {first second : List Decimal} (reordered : first.Perm second) (count : Nat)
    {total : Decimal} (nonneg : 0 ≤ total.coefficient) :
    addAll count total first = addAll count total second := by
  induction reordered generalizing total with
  | nil => rfl
  | cons request _ ih => exact ih (coefficient_addTimes_nonneg nonneg count request)
  | swap first second rest =>
      exact congrArg (addAll count · rest) (addTimes_right_comm nonneg count count second first)
  | trans _ _ firstSame secondSame => exact (firstSame nonneg).trans (secondSame nonneg)

theorem addAll_addTimes {total : Decimal} (nonneg : 0 ≤ total.coefficient) (count other : Nat)
    (request : Decimal) (requests : List Decimal) :
    addAll count (addTimes total other request) requests =
      addTimes (addAll count total requests) other request := by
  induction requests generalizing total with
  | nil => rfl
  | cons first rest ih =>
      calc
        addAll count (addTimes (addTimes total other request) count first) rest =
            addAll count (addTimes (addTimes total count first) other request) rest := by
          rw [addTimes_right_comm nonneg]
        _ = addTimes (addAll count (addTimes total count first) rest) other request :=
          ih (coefficient_addTimes_nonneg nonneg count first)

/-- Requests may be added before or after others. -/
theorem addAll_right_comm {total : Decimal} (nonneg : 0 ≤ total.coefficient) (count other : Nat)
    (first second : List Decimal) :
    addAll other (addAll count total first) second =
      addAll count (addAll other total second) first := by
  induction second generalizing total with
  | nil => rfl
  | cons request rest ih =>
      calc
        addAll other (addTimes (addAll count total first) other request) rest =
            addAll other (addAll count (addTimes total other request) first) rest := by
          rw [addAll_addTimes nonneg]
        _ = addAll count (addAll other (addTimes total other request) rest) first :=
          ih (coefficient_addTimes_nonneg nonneg other request)

theorem coefficient_addAll_nonneg {total : Decimal} (nonneg : 0 ≤ total.coefficient)
    (count : Nat) (requests : List Decimal) : 0 ≤ (addAll count total requests).coefficient := by
  induction requests generalizing total with
  | nil => exact nonneg
  | cons request rest ih => exact ih (coefficient_addTimes_nonneg nonneg count request)

theorem eq_of_parts {first second : Ratio} (sameCpu : first.cpu = second.cpu)
    (sameMemory : first.memory = second.memory) : first = second := by
  cases first
  cases second
  exact congrArg₂ mk sameCpu sameMemory

/-- Both totals are not below zero. -/
structure IsNonneg (ratio : Ratio) : Prop where
  cpu : 0 ≤ ratio.cpu.coefficient
  memory : 0 ≤ ratio.memory.coefficient

theorem isNonneg_zero : zero.IsNonneg := ⟨le_rfl, le_rfl⟩

section Records

variable {ratio : Ratio} {first second : List Demand}

theorem IsNonneg.record (nonneg : ratio.IsNonneg) (count : Nat) (demands : List Demand) :
    (ratio.record count demands).IsNonneg where
  cpu := ratio.cpu_record count demands ▸ coefficient_addAll_nonneg nonneg.cpu count _
  memory := ratio.memory_record count demands ▸ coefficient_addAll_nonneg nonneg.memory count _

theorem record_perm (reordered : first.Perm second) (count : Nat) (nonneg : ratio.IsNonneg) :
    ratio.record count first = ratio.record count second := by
  apply eq_of_parts
  · rw [cpu_record, cpu_record]
    exact addAll_perm (reordered.map (·.cpu)) count nonneg.cpu
  · rw [memory_record, memory_record]
    exact addAll_perm (reordered.map (·.memory)) count nonneg.memory

/-- The requests of some containers may be added before or after those of others. -/
theorem record_right_comm (count other : Nat) (nonneg : ratio.IsNonneg) :
    (ratio.record count first).record other second =
      (ratio.record other second).record count first := by
  apply eq_of_parts
  · simp only [cpu_record]
    exact addAll_right_comm nonneg.cpu count other _ _
  · simp only [memory_record]
    exact addAll_right_comm nonneg.memory count other _ _

end Records

theorem addTimes_zero (total request : Decimal) : addTimes total 0 request = total := by
  have vanishes : (request.times 0).isZero = true := by
    rw [Decimal.isZero_iff, ← Decimal.toRat_eq_zero_iff, Decimal.toRat_times, Nat.cast_zero,
      zero_mul]
  unfold addTimes
  split
  · exact Decimal.add_of_isZero_right vanishes
  · rfl

/-- Requests that count no time add nothing. -/
theorem record_zero (ratio : Ratio) (demands : List Demand) : ratio.record 0 demands = ratio := by
  induction demands with
  | nil => rfl
  | cons demand rest ih =>
      change (addDemand 0 ratio demand).record 0 rest = ratio
      rwa [addDemand, addTimes_zero, addTimes_zero]

theorem recordPodSpec_eq_ok {ratio total : Ratio} {count : Nat} {spec : PodSpec}
    (recorded : ratio.recordPodSpec count spec = .ok total) :
    total = ratio.record count spec.demands := by
  unfold recordPodSpec at recorded
  cases isRead : Demand.ofPodSpec spec with
  | error fault =>
      rw [isRead] at recorded
      cases recorded
  | ok demands =>
      rw [isRead] at recorded
      rw [← Demand.ofPodSpec_eq_ok isRead]
      exact (Except.ok.inj recorded).symm

/-- A running pod is added up as what its containers request, and another one not at all. -/
theorem recordPod_eq_ok {ratio total : Ratio} {pod : Pod}
    (recorded : ratio.recordPod pod = .ok total) :
    total = if pod.phase = some runningPhase then ratio.record 1 pod.demands else ratio := by
  unfold recordPod at recorded
  split at recorded
  next runs =>
    rw [if_pos runs, Pod.demands]
    cases hasSpec : pod.spec with
    | none =>
        rw [hasSpec] at recorded
        exact (Except.ok.inj recorded).symm
    | some spec =>
        rw [hasSpec] at recorded
        rw [Option.toList_some, List.flatMap_singleton]
        exact recordPodSpec_eq_ok recorded
  next rests =>
    rw [if_neg rests]
    exact (Except.ok.inj recorded).symm

end Ratio

namespace ReplicaSpec

/-- As many replicas count as are asked for, which is one if nothing is said and at least none. -/
theorem cast_count (spec : ReplicaSpec) : (spec.count : Int) = max 0 (spec.replicas.getD 1) := by
  unfold count
  cases spec.replicas with
  | none => rfl
  | some replicas => rw [Option.getD_some, Int.ofNat_toNat, max_comm]

theorem count_of_unsaid {spec : ReplicaSpec} (unsaid : spec.replicas = none) : spec.count = 1 := by
  refine Int.ofNat_inj.mp ?_
  rw [cast_count, unsaid]
  rfl

theorem count_of_neg {spec : ReplicaSpec} {replicas : Int} (asked : spec.replicas = some replicas)
    (negative : replicas < 0) : spec.count = 0 := by
  refine Int.ofNat_inj.mp ?_
  rw [cast_count, asked, Option.getD_some, max_eq_left negative.le]
  rfl

end ReplicaSpec

namespace Ratio

theorem recordReplicas_eq_ok {ratio total : Ratio} {spec : Option ReplicaSpec}
    (recorded : ratio.recordReplicas spec = .ok total) :
    total = ratio.record ((spec.map (·.count)).getD 1)
      ((spec.bind (·.template)).toList.flatMap PodSpec.demands) := by
  cases spec with
  | none => exact (Except.ok.inj recorded).symm
  | some spec =>
      rw [recordReplicas] at recorded
      rw [Option.bind_some]
      cases hasTemplate : spec.template with
      | none =>
          rw [hasTemplate] at recorded
          exact (Except.ok.inj recorded).symm
      | some template =>
          rw [hasTemplate] at recorded
          rw [Option.toList_some, List.flatMap_singleton]
          exact recordPodSpec_eq_ok recorded

/-- A workload that does not say how many replicas it asks for is added up as one pod. -/
theorem recordReplicas_of_unsaid {spec : ReplicaSpec} {template : PodSpec} (ratio : Ratio)
    (unsaid : spec.replicas = none) (hasTemplate : spec.template = some template) :
    ratio.recordReplicas (some spec) = ratio.recordPodSpec 1 template := by
  rw [recordReplicas, hasTemplate, ReplicaSpec.count_of_unsaid unsaid]

/-- A workload that asks for fewer than no replicas adds nothing, although its requests are
read. -/
theorem recordReplicas_eq_ok_of_neg {ratio total : Ratio} {spec : ReplicaSpec} {replicas : Int}
    (asked : spec.replicas = some replicas) (negative : replicas < 0)
    (recorded : ratio.recordReplicas (some spec) = .ok total) : total = ratio := by
  rw [recordReplicas_eq_ok recorded, Option.map_some, Option.getD_some,
    ReplicaSpec.count_of_neg asked negative, record_zero]

end Ratio

namespace Workload

variable (workload : Workload) (name : String)

/-- The number of the pods of a workload. -/
def replicas : Workload → Nat
  | .pod _ => 1
  | .deployment object => (object.spec.map (·.count)).getD 1
  | .statefulSet object => (object.spec.map (·.count)).getD 1

/-- What the containers of one of the pods of a workload request. -/
def demands : List Demand := workload.template.toList.flatMap PodSpec.demands

/-- How much a workload adds to the total of a resource. -/
def requested (resource : String) : ℚ :=
  workload.replicas * (workload.template.map (PodSpec.requested resource)).getD 0

theorem record_eq_ok {ratio total : Ratio} (recorded : workload.record ratio = .ok total) :
    total = ratio.record workload.replicas workload.demands := by
  cases workload with
  | pod object =>
      rw [record] at recorded
      rw [demands, template]
      cases hasSpec : object.spec with
      | none =>
          rw [hasSpec] at recorded
          exact (Except.ok.inj recorded).symm
      | some spec =>
          rw [hasSpec] at recorded
          rw [Option.toList_some, List.flatMap_singleton]
          exact Ratio.recordPodSpec_eq_ok recorded
  | deployment object => exact Ratio.recordReplicas_eq_ok recorded
  | statefulSet object => exact Ratio.recordReplicas_eq_ok recorded

/-- The pods of a namespace are added up as what the containers request of those that
count. -/
theorem recordOthers_eq_ok {pods : List Pod} {ratio total : Ratio}
    (recorded : workload.recordOthers name pods ratio = .ok total) :
    total = ratio.record 1 ((pods.filter (workload.Counts name ·)).flatMap Pod.demands) := by
  induction pods generalizing ratio with
  | nil => exact (Except.ok.inj recorded).symm
  | cons pod rest ih =>
      rw [recordOthers] at recorded
      split at recorded
      next owned =>
        have isOwn : ¬ workload.Counts name pod := fun counted =>
          counted.notOwned ((workload.owns_iff name pod).mp owned)
        rw [List.filter_cons_of_neg (by simpa using isOwn)]
        exact ih recorded
      next notOwned =>
        cases podRecorded : ratio.recordPod pod with
        | error fault =>
            rw [podRecorded] at recorded
            cases recorded
        | ok middle =>
            rw [podRecorded] at recorded
            have isMiddle := Ratio.recordPod_eq_ok podRecorded
            rw [ih recorded]
            split at isMiddle
            next runs =>
              have counted : workload.Counts name pod :=
                ⟨runs, fun owns => notOwned ((workload.owns_iff name pod).mpr owns)⟩
              rw [List.filter_cons_of_pos (by simpa using counted), List.flatMap_cons, isMiddle]
              exact (List.foldl_append ..).symm
            next rests =>
              have notCounted : ¬ workload.Counts name pod := fun counted => rests counted.runs
              rw [List.filter_cons_of_neg (by simpa using notCounted), isMiddle]

end Workload

end Tenancy
