import Tenancy.Policy.FairUse
import Tenancy.Proofs.Cluster.Failure

/-!
# Workloads whose requests can be added up

Requests are added up if they are quantities, where there are any.  The pods of a
namespace fail to be added up exactly at a running pod, not owned by the workload under
review, with a request that is no quantity.
-/

namespace Tenancy

/-- Whether the requests of a container for CPU and memory are quantities. -/
def Container.isCountable (container : Container) : Bool :=
  ["cpu", "memory"].all fun resource =>
    (container.requests.bind (·.get? resource)).all fun text => (Quantity.parse text).isOk

/-- Whether the requests of all containers of a pod are quantities. -/
def PodSpec.isCountable (spec : PodSpec) : Bool := spec.containers.all Container.isCountable

/-- Whether a pod can be added up: only those that run have to. -/
def Pod.isCountable (pod : Pod) : Bool :=
  pod.phase != some Ratio.runningPhase || pod.spec.all PodSpec.isCountable

theorem isOk_map {ε α β : Type} (f : α → β) (result : Except ε α) :
    (result.map f).isOk = result.isOk := by
  cases result <;> rfl

namespace Demand

theorem isOk_parseOrZero (text : Option String) :
    (Quantity.parseOrZero text).isOk = text.all fun text => (Quantity.parse text).isOk := by
  cases text <;> rfl

/-- The requests of a container are read exactly if they are quantities. -/
theorem isOk_ofContainer (container : Container) :
    (ofContainer container).isOk = container.isCountable := by
  rw [Container.isCountable, List.all_cons, List.all_cons, List.all_nil, Bool.and_true,
    ← isOk_parseOrZero, ← isOk_parseOrZero, ofContainer]
  cases Quantity.parseOrZero (container.requests.bind (·.get? "cpu")) with
  | error fault => rfl
  | ok cpu => cases Quantity.parseOrZero (container.requests.bind (·.get? "memory")) <;> rfl

theorem isOk_ofPodSpec (spec : PodSpec) : (ofPodSpec spec).isOk = spec.isCountable := by
  simp only [ofPodSpec, PodSpec.isCountable, Lookup.isOk_mapM, isOk_ofContainer]

end Demand

namespace Ratio

theorem isOk_recordPodSpec (ratio : Ratio) (count : Nat) (spec : PodSpec) :
    (ratio.recordPodSpec count spec).isOk = spec.isCountable := by
  rw [recordPodSpec, isOk_map, Demand.isOk_ofPodSpec]

/-- A pod is added up exactly if it can be. -/
theorem isOk_recordPod (ratio : Ratio) (pod : Pod) :
    (ratio.recordPod pod).isOk = pod.isCountable := by
  rw [recordPod, Pod.isCountable]
  by_cases running : pod.phase = some runningPhase
  · rw [if_pos running]
    cases spec : pod.spec with
    | none => simp
    | some spec => simp [running, isOk_recordPodSpec]
  · simp [running]

theorem isOk_recordReplicas (ratio : Ratio) (spec : Option ReplicaSpec) :
    (ratio.recordReplicas spec).isOk = (spec.bind (·.template)).all PodSpec.isCountable := by
  cases spec with
  | none => rfl
  | some spec =>
      rw [recordReplicas, Option.bind_some]
      cases spec.template with
      | none => rfl
      | some template => exact ratio.isOk_recordPodSpec spec.count template

end Ratio

namespace Workload

/-! ## The pods of a workload -/

/-- A pod belongs to a workload with a name: it has the name of the pod that the workload is,
or carries all the labels that the workload asks of its pods, if it asks for any. -/
inductive Owns (workload : Workload) (name : String) (pod : Pod) : Prop
  | self {object : Pod} : workload = .pod object →
      (pod.metadata.name <|> pod.metadata.generateName).getD "" = name → Owns workload name pod
  | replica {labels : SortedMap String} : workload.matchLabels = some labels →
      labels.entries ≠ [] →
      (∀ key value, (key, value) ∈ labels.entries →
        pod.metadata.allLabels.get? key = some value) →
      Owns workload name pod

/-- A pod counts next to a workload if it runs and does not belong to it. -/
structure Counts (workload : Workload) (name : String) (pod : Pod) : Prop where
  runs : pod.phase = some "Running"
  notOwned : ¬ workload.Owns name pod

variable (workload : Workload) (name : String)

theorem carries_iff (pod : Pod) (labels : SortedMap String) :
    carries pod labels = true ↔ ∀ key value, (key, value) ∈ labels.entries →
      pod.metadata.allLabels.get? key = some value := by
  simp [carries]

theorem owns_eq_any {workload : Workload} {pod : Pod}
    (notPod : ∀ object, workload ≠ .pod object) :
    workload.owns name pod =
      workload.matchLabels.any fun labels => !labels.isEmpty && carries pod labels := by
  unfold owns
  split
  next object => exact absurd rfl (notPod object)
  next => cases workload.matchLabels <;> rfl

/-- The pods that a workload is found to own are those that belong to it. -/
theorem owns_iff (pod : Pod) : workload.owns name pod = true ↔ workload.Owns name pod := by
  have ofLabels (noPod : ∀ object, workload ≠ .pod object) :
      workload.owns name pod = true ↔ workload.Owns name pod := by
    rw [owns_eq_any name noPod]
    cases asked : workload.matchLabels with
    | none =>
        refine iff_of_false Bool.false_ne_true ?_
        rintro (⟨isPod, _⟩ | ⟨asks, _, _⟩)
        · exact noPod _ isPod
        · rw [asked] at asks
          cases asks
    | some labels =>
        rw [Option.any_some, Bool.and_eq_true, Bool.not_eq_true', SortedMap.isEmpty,
          List.isEmpty_eq_false_iff, carries_iff]
        constructor
        · rintro ⟨asksSome, carriesAll⟩
          exact .replica asked asksSome carriesAll
        · rintro (⟨isPod, _⟩ | ⟨asks, asksSome, carriesAll⟩)
          · exact absurd isPod (noPod _)
          · obtain rfl := Option.some.inj (asked.symm.trans asks)
            exact ⟨asksSome, carriesAll⟩
  cases workload with
  | pod object =>
      rw [owns, beq_iff_eq, Metadata.anyName]
      constructor
      · exact .self rfl
      · rintro (⟨_, named⟩ | ⟨asks, _, _⟩)
        · exact named
        · cases asks
  | deployment object => exact ofLabels nofun
  | statefulSet object => exact ofLabels nofun

/-- Whether a pod counts next to a workload. -/
def counts (pod : Pod) : Bool :=
  pod.phase == some Ratio.runningPhase && !workload.owns name pod

theorem counts_iff (pod : Pod) : workload.counts name pod = true ↔ workload.Counts name pod := by
  rw [counts, Bool.and_eq_true, beq_iff_eq, Bool.not_eq_true', ← Bool.not_eq_true, owns_iff]
  exact ⟨fun ⟨runs, notOwned⟩ => ⟨runs, notOwned⟩, fun ⟨runs, notOwned⟩ => ⟨runs, notOwned⟩⟩

instance : DecidablePred (workload.Counts name) := fun pod =>
  decidable_of_iff _ (workload.counts_iff name pod)

/-! ## Adding up -/

/-- What each of the pods of a workload is to run. -/
def template : Workload → Option PodSpec
  | .pod object => object.spec
  | .deployment object => object.spec.bind (·.template)
  | .statefulSet object => object.spec.bind (·.template)

/-- A workload is added up exactly if the requests of its containers are quantities. -/
theorem isOk_record (ratio : Ratio) :
    (workload.record ratio).isOk = workload.template.all PodSpec.isCountable := by
  cases workload with
  | pod object =>
      simp only [record, template]
      cases object.spec with
      | none => rfl
      | some spec => exact ratio.isOk_recordPodSpec 1 spec
  | deployment object => exact ratio.isOk_recordReplicas object.spec
  | statefulSet object => exact ratio.isOk_recordReplicas object.spec

/-- The pods of a namespace are added up exactly if those can be that the workload does
not own. -/
theorem isOk_recordOthers (pods : List Pod) (ratio : Ratio) :
    (workload.recordOthers name pods ratio).isOk =
      pods.all fun pod => workload.owns name pod || pod.isCountable := by
  induction pods generalizing ratio with
  | nil => rfl
  | cons pod rest ih =>
      rw [recordOthers, List.all_cons]
      cases owned : workload.owns name pod with
      | true => simp [ih]
      | false =>
          have countable := ratio.isOk_recordPod pod
          cases recorded : ratio.recordPod pod with
          | error fault =>
              rw [recorded] at countable
              simp [← countable, Except.bind]
          | ok total =>
              rw [recorded] at countable
              simp [← countable, Except.bind, ih]

/-- Adding up fails internally exactly at a pod that the workload does not own and that
cannot be added up; the requests of the workload itself are the caller's fault. -/
theorem totalWith_fails_iff (pods : List Pod) :
    (∃ failure, workload.totalWith name pods = .error failure ∧ failure.isInternal = true) ↔
      ∃ pod ∈ pods, workload.owns name pod = false ∧ pod.isCountable = false := by
  have isOk := workload.isOk_recordOthers name pods .zero
  rw [totalWith]
  cases others : workload.recordOthers name pods .zero with
  | error fault =>
      rw [others] at isOk
      have found : ∃ pod ∈ pods, workload.owns name pod = false ∧ pod.isCountable = false := by
        simpa using isOk.symm
      exact ⟨fun _ => found, fun _ => ⟨_, rfl, rfl⟩⟩
  | ok total =>
      rw [others] at isOk
      have allCounted : ∀ pod ∈ pods, workload.owns name pod || pod.isCountable :=
        List.all_eq_true.mp isOk.symm
      constructor
      · rintro ⟨failure, failed, isInternal⟩
        cases recorded : workload.record total with
        | ok ratio =>
            simp [recorded, Except.mapError, bind, Except.bind] at failed
        | error fault =>
            simp only [recorded, Except.mapError, bind, Except.bind,
              Except.error.injEq] at failed
            rw [← failed] at isInternal
            cases isInternal
      · rintro ⟨pod, member, notOwned, notCountable⟩
        have counted := allCounted pod member
        rw [notOwned, notCountable] at counted
        cases counted

/-- The pods of a namespace can be added up exactly if those can be that count. -/
theorem isOk_recordOthers_iff (pods : List Pod) (ratio : Ratio) :
    (workload.recordOthers name pods ratio).isOk = true ↔
      ∀ pod ∈ pods, workload.Counts name pod → pod.spec.all PodSpec.isCountable = true := by
  rw [isOk_recordOthers, List.all_eq_true]
  refine forall_congr' fun pod => imp_congr_right fun _ => ?_
  rw [← counts_iff, counts, Pod.isCountable]
  cases workload.owns name pod <;> by_cases runs : pod.phase = some Ratio.runningPhase <;>
    simp [runs]

/-- Adding up fails by the fault of the caller exactly if the pods that count can be added
up and the workload cannot. -/
theorem totalWith_isCallers_iff (pods : List Pod) :
    (∃ failure, workload.totalWith name pods = .error failure ∧ failure.isInternal = false) ↔
      (∀ pod ∈ pods, workload.Counts name pod → pod.spec.all PodSpec.isCountable = true) ∧
        workload.template.all PodSpec.isCountable = false := by
  rw [← isOk_recordOthers_iff workload name pods .zero, totalWith]
  cases others : workload.recordOthers name pods .zero with
  | error fault =>
      refine iff_of_false ?_ (fun counted => Bool.false_ne_true counted.1)
      rintro ⟨failure, failed, isCallers⟩
      simp only [Except.mapError, bind, Except.bind, Except.error.injEq] at failed
      rw [← failed] at isCallers
      cases isCallers
  | ok total =>
      rw [← workload.isOk_record total]
      simp only [Except.mapError, bind, Except.bind]
      cases recorded : workload.record total with
      | error fault =>
          exact iff_of_true ⟨.decode (.quantity "object" fault), rfl, rfl⟩ ⟨rfl, rfl⟩
      | ok ratio =>
          refine iff_of_false ?_ (fun counted => Bool.false_ne_true counted.2.symm)
          rintro ⟨failure, failed, _⟩
          cases failed

end Workload

end Tenancy
