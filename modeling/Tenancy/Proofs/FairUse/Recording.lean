import Tenancy.Proofs.FairUse.Ratio

/-!
# Recordings

A recording changes totals in place: it adds the requests of some containers, or fails if one
of these is no quantity.  A recording that fails leaves the totals as they were.  After any
recordings the totals are the exact sums of what those request that did not fail, so they never
shrink, and the order of the recordings does not matter.
-/

namespace Tenancy

namespace Ratio

/-! ## Changes in place -/

/-- A change of totals that may fail.  What is changed before it fails stays changed. -/
abbrev Change := ExceptT Quantity.Invalid (StateM Ratio) Unit

/-- The outcome of a change and the totals behind it. -/
def Change.on (change : Change) (ratio : Ratio) : Except Quantity.Invalid Unit × Ratio :=
  change.run.run ratio

/-- Add the requests of a pod a number of times. -/
def addPodSpec (count : Nat) (spec : PodSpec) : Change := do
  let demands ← Demand.ofPodSpec spec
  modify (·.record count demands)

/-- Add the requests of a pod that exists, if it runs. -/
def addPod (pod : Pod) : Change :=
  if pod.phase = some runningPhase then
    match pod.spec with
    | some spec => addPodSpec 1 spec
    | none => pure ()
  else pure ()

/-- Add the requests of all replicas of a workload. -/
def addReplicas (spec : Option ReplicaSpec) : Change :=
  match spec with
  | none => pure ()
  | some spec =>
      match spec.template with
      | some template => addPodSpec spec.count template
      | none => pure ()

/-- What is left of totals by new ones, which may fail to be found. -/
def settle (ratio : Ratio) : Except Quantity.Invalid Ratio → Except Quantity.Invalid Unit × Ratio
  | .ok total => (.ok (), total)
  | .error fault => (.error fault, ratio)

theorem on_addPodSpec (ratio : Ratio) (count : Nat) (spec : PodSpec) :
    (addPodSpec count spec).on ratio = ratio.settle (ratio.recordPodSpec count spec) := by
  unfold addPodSpec Change.on recordPodSpec
  cases Demand.ofPodSpec spec <;> rfl

theorem on_addPod (ratio : Ratio) (pod : Pod) :
    (addPod pod).on ratio = ratio.settle (ratio.recordPod pod) := by
  unfold addPod recordPod
  split
  · cases pod.spec with
    | none => rfl
    | some spec => exact ratio.on_addPodSpec 1 spec
  · rfl

theorem on_addReplicas (ratio : Ratio) (spec : Option ReplicaSpec) :
    (addReplicas spec).on ratio = ratio.settle (ratio.recordReplicas spec) := by
  cases spec with
  | none => rfl
  | some spec =>
      unfold addReplicas recordReplicas
      dsimp only
      cases spec.template with
      | none => rfl
      | some template => exact ratio.on_addPodSpec spec.count template

end Ratio

/-- Something whose requests are added to totals. -/
inductive Recording where
  | containers (count : Nat) (requests : List Demand)
  | podSpec (count : Nat) (spec : PodSpec)
  | pod (object : Pod)
  | deployment (object : Deployment)
  | statefulSet (object : StatefulSet)

namespace Recording

/-- The change that a recording makes to totals. -/
def change : Recording → Ratio.Change
  | containers count requests => modify (·.record count requests)
  | podSpec count spec => Ratio.addPodSpec count spec
  | pod object => Ratio.addPod object
  | deployment object => Ratio.addReplicas object.spec
  | statefulSet object => Ratio.addReplicas object.spec

/-- The totals after recordings, whether or not they fail. -/
def after (ratio : Ratio) (recordings : List Recording) : Ratio :=
  recordings.foldl (fun total recording => (recording.change.on total).2) ratio

/-- Those of some recordings, made one after the other, that do not fail. -/
def succeeding : Ratio → List Recording → List Recording
  | _, [] => []
  | ratio, recording :: rest =>
      match recording.change.on ratio with
      | (.ok (), total) => recording :: succeeding total rest
      | (.error _, total) => succeeding total rest

/-- How often the requests of the containers count: once for a pod that runs and not at all
for another one, and for each replica of a workload. -/
def count : Recording → Nat
  | containers count _ => count
  | podSpec count _ => count
  | pod object => if object.phase = some "Running" then 1 else 0
  | deployment object => (object.spec.map (·.count)).getD 1
  | statefulSet object => (object.spec.map (·.count)).getD 1

/-- What the containers request. -/
def requests : Recording → List Demand
  | containers _ requests => requests
  | podSpec _ spec => spec.demands
  | pod object => object.demands
  | deployment object => (object.spec.bind (·.template)).toList.flatMap PodSpec.demands
  | statefulSet object => (object.spec.bind (·.template)).toList.flatMap PodSpec.demands

/-- How much a recording adds to the total of CPU or memory: the sum over the containers,
where a request below zero counts as none, as often as it counts. -/
def amount (part : Demand → Decimal) (recording : Recording) : ℚ :=
  recording.count * (recording.requests.map fun demand => max 0 (part demand).toRat).sum

/-- Whether all requests that a recording reads are quantities. -/
def isCountable : Recording → Bool
  | containers _ _ => true
  | podSpec _ spec => spec.isCountable
  | pod object => object.isCountable
  | deployment object => (object.spec.bind (·.template)).all PodSpec.isCountable
  | statefulSet object => (object.spec.bind (·.template)).all PodSpec.isCountable

/-- The totals that a recording makes of given ones, if it does not fail. -/
def total (ratio : Ratio) : Recording → Except Quantity.Invalid Ratio
  | containers count requests => .ok (ratio.record count requests)
  | podSpec count spec => ratio.recordPodSpec count spec
  | pod object => ratio.recordPod object
  | deployment object => ratio.recordReplicas object.spec
  | statefulSet object => ratio.recordReplicas object.spec

variable (recording : Recording) (ratio : Ratio)

/-! ## One recording -/

theorem on_change : recording.change.on ratio = ratio.settle (recording.total ratio) := by
  cases recording with
  | containers count requests => rfl
  | podSpec count spec => exact ratio.on_addPodSpec count spec
  | pod object => exact ratio.on_addPod object
  | deployment object => exact ratio.on_addReplicas object.spec
  | statefulSet object => exact ratio.on_addReplicas object.spec

theorem isOk_total : (recording.total ratio).isOk = recording.isCountable := by
  cases recording with
  | containers count requests => rfl
  | podSpec count spec => exact ratio.isOk_recordPodSpec count spec
  | pod object => exact ratio.isOk_recordPod object
  | deployment object => exact ratio.isOk_recordReplicas object.spec
  | statefulSet object => exact ratio.isOk_recordReplicas object.spec

theorem total_eq_ok {recording : Recording} {ratio total : Ratio}
    (recorded : recording.total ratio = .ok total) :
    total = ratio.record recording.count recording.requests := by
  cases recording with
  | containers count requests => exact (Except.ok.inj recorded).symm
  | podSpec count spec => exact Ratio.recordPodSpec_eq_ok recorded
  | pod object =>
      rw [Ratio.recordPod_eq_ok recorded]
      split
      next runs =>
        have once : count (.pod object) = 1 := if_pos runs
        rw [once, requests]
      next rests =>
        have notOnce : count (.pod object) = 0 := if_neg rests
        rw [notOnce, Ratio.record_zero]
  | deployment object => exact Ratio.recordReplicas_eq_ok recorded
  | statefulSet object => exact Ratio.recordReplicas_eq_ok recorded

/-- A recording that reads quantities only does not fail, and adds its requests as often as
they count. -/
theorem on_change_of_isCountable (countable : recording.isCountable = true) :
    recording.change.on ratio = (.ok (), ratio.record recording.count recording.requests) := by
  have isOk := (recording.isOk_total ratio).trans countable
  rw [on_change]
  cases recorded : recording.total ratio with
  | error fault =>
      rw [recorded] at isOk
      cases isOk
  | ok total => rw [Ratio.settle, total_eq_ok recorded]

/-- A recording that reads something else fails and leaves the totals as they were. -/
theorem on_change_of_not_isCountable (uncountable : recording.isCountable = false) :
    ∃ fault, recording.change.on ratio = (.error fault, ratio) := by
  have failed := (recording.isOk_total ratio).trans uncountable
  rw [on_change]
  cases recorded : recording.total ratio with
  | error fault => exact ⟨fault, rfl⟩
  | ok total =>
      rw [recorded] at failed
      cases failed

theorem amount_nonneg (part : Demand → Decimal) : 0 ≤ recording.amount part := by
  refine mul_nonneg (Nat.cast_nonneg _) (List.sum_nonneg fun share member => ?_)
  obtain ⟨demand, _, rfl⟩ := List.mem_map.mp member
  exact le_max_left _ _

/-! ## Several recordings -/

variable {ratio} {recordings : List Recording}

theorem after_cons : after ratio (recording :: recordings) =
    after (recording.change.on ratio).2 recordings :=
  rfl

theorem after_append (further : List Recording) :
    after ratio (recordings ++ further) = after (after ratio recordings) further :=
  List.foldl_append ..

theorem isNonneg_on_change (nonneg : ratio.IsNonneg) : (recording.change.on ratio).2.IsNonneg := by
  cases countable : recording.isCountable with
  | true =>
      rw [recording.on_change_of_isCountable ratio countable]
      exact nonneg.record _ _
  | false =>
      obtain ⟨fault, failed⟩ := recording.on_change_of_not_isCountable ratio countable
      rwa [failed]

/-- Totals do not fall below zero. -/
theorem isNonneg_after (nonneg : ratio.IsNonneg) : (after ratio recordings).IsNonneg := by
  induction recordings generalizing ratio with
  | nil => exact nonneg
  | cons recording rest ih => exact ih (isNonneg_on_change recording nonneg)

section Sums

variable {whole : Ratio → Decimal} {part : Demand → Decimal}

/-- A total is the exact sum of what those recordings add that do not fail. -/
theorem toRat_after
    (adds : ∀ ratio count requests, (whole (ratio.record count requests)).toRat =
      (whole ratio).toRat + count * (requests.map fun demand => max 0 (part demand).toRat).sum)
    (ratio : Ratio) (recordings : List Recording) :
    (whole (after ratio recordings)).toRat =
      (whole ratio).toRat + ((succeeding ratio recordings).map (amount part)).sum := by
  induction recordings generalizing ratio with
  | nil => exact (add_zero _).symm
  | cons recording rest ih =>
      rw [after_cons, ih, succeeding]
      cases countable : recording.isCountable with
      | true =>
          rw [recording.on_change_of_isCountable ratio countable, List.map_cons, List.sum_cons,
            adds, add_assoc, amount]
      | false =>
          obtain ⟨fault, failed⟩ := recording.on_change_of_not_isCountable ratio countable
          rw [failed]

theorem le_toRat_after
    (adds : ∀ ratio count requests, (whole (ratio.record count requests)).toRat =
      (whole ratio).toRat + count * (requests.map fun demand => max 0 (part demand).toRat).sum)
    (ratio : Ratio) (recordings : List Recording) :
    (whole ratio).toRat ≤ (whole (after ratio recordings)).toRat := by
  rw [toRat_after adds]
  refine le_add_of_nonneg_right (List.sum_nonneg fun share member => ?_)
  obtain ⟨recording, _, rfl⟩ := List.mem_map.mp member
  exact recording.amount_nonneg part

end Sums

/-- Two recordings can be made in either order. -/
theorem on_change_comm (nonneg : ratio.IsNonneg) (first second : Recording) :
    (second.change.on (first.change.on ratio).2).2 =
      (first.change.on (second.change.on ratio).2).2 := by
  cases firstCountable : first.isCountable with
  | true =>
      cases secondCountable : second.isCountable with
      | true =>
          simp only [on_change_of_isCountable _ _ firstCountable,
            on_change_of_isCountable _ _ secondCountable]
          exact Ratio.record_right_comm _ _ nonneg
      | false =>
          obtain ⟨fault, failed⟩ := second.on_change_of_not_isCountable
            (first.change.on ratio).2 secondCountable
          obtain ⟨other, alsoFailed⟩ := second.on_change_of_not_isCountable ratio secondCountable
          rw [failed, alsoFailed]
  | false =>
      obtain ⟨fault, failed⟩ := first.on_change_of_not_isCountable ratio firstCountable
      obtain ⟨other, alsoFailed⟩ := first.on_change_of_not_isCountable
        (second.change.on ratio).2 firstCountable
      rw [failed, alsoFailed]

theorem after_perm {reordered : List Recording} (permuted : recordings.Perm reordered)
    (nonneg : ratio.IsNonneg) : after ratio recordings = after ratio reordered := by
  induction permuted generalizing ratio with
  | nil => rfl
  | cons recording _ ih => exact ih (isNonneg_on_change recording nonneg)
  | swap first second rest => exact congrArg (after · rest) (on_change_comm nonneg second first)
  | trans _ _ firstSame secondSame => exact (firstSame nonneg).trans (secondSame nonneg)

/-- After any recordings the totals are the exact sums of what those add that did not fail.  One
that fails leaves the totals as they were, no recording makes them smaller, and the order of the
recordings does not matter. -/
theorem after_zero_eq_sums (recordings : List Recording) :
    let total := after .zero recordings
    total.cpu.toRat = ((succeeding .zero recordings).map (amount Demand.cpu)).sum ∧
      total.memory.toRat = ((succeeding .zero recordings).map (amount Demand.memory)).sum ∧
      (∀ (recording : Recording) fault, (recording.change.on total).1 = .error fault →
        (recording.change.on total).2 = total) ∧
      (∀ further, total.cpu.toRat ≤ (after .zero (recordings ++ further)).cpu.toRat ∧
        total.memory.toRat ≤ (after .zero (recordings ++ further)).memory.toRat) ∧
      ∀ reordered, recordings.Perm reordered → after .zero reordered = total := by
  dsimp only
  have zeroCpu : Ratio.zero.cpu.toRat = 0 := Decimal.toRat_zero
  have zeroMemory : Ratio.zero.memory.toRat = 0 := Decimal.toRat_zero
  refine ⟨?_, ?_, ?_, ?_, ?_⟩
  · rw [toRat_after Ratio.toRat_cpu_record, zeroCpu, zero_add]
  · rw [toRat_after Ratio.toRat_memory_record, zeroMemory, zero_add]
  · intro recording fault failed
    rw [on_change] at failed ⊢
    cases recorded : recording.total (after .zero recordings) with
    | ok total =>
        rw [recorded] at failed
        cases failed
    | error other => rfl
  · intro further
    rw [after_append]
    exact ⟨le_toRat_after Ratio.toRat_cpu_record _ _, le_toRat_after Ratio.toRat_memory_record _ _⟩
  · intro reordered permuted
    exact (after_perm permuted Ratio.isNonneg_zero).symm

/-! ### A workload with one request that is no quantity -/

/-- A container with requests. -/
def sampleContainer (cpu memory : String) : Container :=
  ⟨some (.ofList [("cpu", cpu), ("memory", memory)])⟩

/-- A deployment whose second container requests no quantity. -/
def sampleHalfRead : Recording :=
  .deployment ⟨.empty, some ⟨some 3, none,
    some ⟨[sampleContainer "1" "1Gi", sampleContainer "lots" "1Gi"], none⟩⟩⟩

/-- A pod template with two replicas. -/
def sampleRead : Recording := .podSpec 2 ⟨[sampleContainer "500m" "1Gi"], none⟩

/-- The deployment fails and adds nothing, not even for its first container, whether it is
recorded before or after the template. -/
theorem after_zero_sampleHalfRead :
    (sampleHalfRead.change.on (after .zero [sampleRead])).1 = .error ⟨"lots"⟩ ∧
      (sampleHalfRead.change.on (after .zero [sampleRead])).2 = after .zero [sampleRead] ∧
      after .zero [sampleHalfRead, sampleRead] = after .zero [sampleRead, sampleHalfRead] := by
  have failed : (sampleHalfRead.change.on (after .zero [sampleRead])).1 = .error ⟨"lots"⟩ := by
    decide +kernel
  obtain ⟨_, _, unchanged, _, _⟩ := after_zero_eq_sums [sampleRead]
  obtain ⟨_, _, _, _, reordered⟩ := after_zero_eq_sums [sampleRead, sampleHalfRead]
  exact ⟨failed, unchanged _ _ failed, reordered _ (List.Perm.swap _ _ _)⟩

end Recording

end Tenancy
