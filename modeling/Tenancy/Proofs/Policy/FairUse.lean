import Tenancy.Proofs.FairUse.Ratio
import Tenancy.Proofs.Policy.BadRequest
import Tenancy.Proofs.Cluster.Failure

/-!
# What counts for fair use

Of the pods of a namespace only those count that run and do not belong to the workload under
review.  Two clusters with the same pods that count get the same decision, whatever their
other pods are and in whichever order they list them.
-/

namespace Tenancy

/-- Two decisions are the same but for what led to an error. -/
inductive Decision.Agrees : Decision → Decision → Prop
  | same (decision : Decision) : Agrees decision decision
  | failed (code : Nat) (cause other : Failure) : Agrees (.error code cause) (.error code other)

/-! ## Totals -/

namespace Workload

variable (workload : Workload) (name : String) {pods others : List Pod}

/-- The totals of a namespace are settled by the pods that count, unless one of these cannot
be added up. -/
theorem totalWith_perm
    (sameCounted : (pods.filter (workload.Counts name ·)).Perm
      (others.filter (workload.Counts name ·))) :
    workload.totalWith name pods = workload.totalWith name others ∨
      ∃ fault other, workload.totalWith name pods = .error (.quantity fault) ∧
        workload.totalWith name others = .error (.quantity other) := by
  have countable_of {first second : List Pod}
      (same : (first.filter (workload.Counts name ·)).Perm
        (second.filter (workload.Counts name ·)))
      (countable : ∀ pod ∈ first, workload.Counts name pod →
        pod.spec.all PodSpec.isCountable = true) :
      ∀ pod ∈ second, workload.Counts name pod → pod.spec.all PodSpec.isCountable = true := by
    intro pod member counted
    have inSecond : pod ∈ second.filter (workload.Counts name ·) :=
      List.mem_filter.mpr ⟨member, decide_eq_true counted⟩
    exact countable pod (List.mem_filter.mp (same.mem_iff.mpr inSecond)).1 counted
  have sameOk : (workload.recordOthers name pods .zero).isOk =
      (workload.recordOthers name others .zero).isOk := by
    rw [Bool.eq_iff_iff, isOk_recordOthers_iff, isOk_recordOthers_iff]
    exact ⟨countable_of sameCounted, countable_of sameCounted.symm⟩
  unfold totalWith
  cases recorded : workload.recordOthers name pods .zero with
  | error fault =>
      cases alsoRecorded : workload.recordOthers name others .zero with
      | error other => exact .inr ⟨fault, other, rfl, rfl⟩
      | ok total =>
          rw [recorded, alsoRecorded] at sameOk
          cases sameOk
  | ok total =>
      cases alsoRecorded : workload.recordOthers name others .zero with
      | error other =>
          rw [recorded, alsoRecorded] at sameOk
          cases sameOk
      | ok sameTotal =>
          have demandsReordered := sameCounted.flatMap_right Pod.demands
          rw [workload.recordOthers_eq_ok name recorded,
            workload.recordOthers_eq_ok name alsoRecorded,
            Ratio.record_perm demandsReordered 1 Ratio.isNonneg_zero]
          exact .inl rfl

/-- Where everything that counts can be added up, the totals are the exact sums. -/
theorem exists_totalWith_eq_ok
    (podsCountable : ∀ pod ∈ pods, workload.Counts name pod →
      pod.spec.all PodSpec.isCountable = true)
    (countable : workload.template.all PodSpec.isCountable = true) :
    ∃ total, workload.totalWith name pods = .ok total ∧
      total.cpu.toRat =
        ((pods.filter (workload.Counts name ·)).map (Pod.requested "cpu")).sum +
          workload.requested "cpu" ∧
      total.memory.toRat =
        ((pods.filter (workload.Counts name ·)).map (Pod.requested "memory")).sum +
          workload.requested "memory" := by
  have othersOk := (workload.isOk_recordOthers_iff name pods .zero).mpr podsCountable
  cases othersRecorded : workload.recordOthers name pods .zero with
  | error fault =>
      rw [othersRecorded] at othersOk
      cases othersOk
  | ok others =>
      have isOk := (workload.isOk_record others).trans countable
      cases recorded : workload.record others with
      | error fault =>
          rw [recorded] at isOk
          cases isOk
      | ok total =>
          have isTotal : workload.totalWith name pods = .ok total := by
            simp only [totalWith, othersRecorded, recorded, Except.mapError, bind, Except.bind]
          refine ⟨total, isTotal, ?_, ?_⟩
          · rw [workload.record_eq_ok recorded, Ratio.toRat_cpu_record,
              workload.recordOthers_eq_ok name othersRecorded, Ratio.toRat_cpu_record,
              Pod.sum_demands fun _ => rfl, demands, PodSpec.sum_toList_demands fun _ => rfl,
              Ratio.zero, Decimal.toRat_zero, zero_add, Nat.cast_one, one_mul, requested]
          · rw [workload.record_eq_ok recorded, Ratio.toRat_memory_record,
              workload.recordOthers_eq_ok name othersRecorded, Ratio.toRat_memory_record,
              Pod.sum_demands fun _ => rfl, demands, PodSpec.sum_toList_demands fun _ => rfl,
              Ratio.zero, Decimal.toRat_zero, zero_add, Nat.cast_one, one_mul, requested]

end Workload

/-! ## Decisions -/

/-- With a new object that can be read, the states of a request are read unless the old one
cannot be. -/
theorem States.exists_ofRequest_eq_ok_of_new {α : Type} {decode : Json → Option α}
    {request : Request} {new : α} (newRead : request.object.bind decode = some new)
    (oldReads : ∀ json, request.oldObject = some json → (decode json).isSome = true) :
    ∃ states, ofRequest decode request = .ok states := by
  obtain ⟨json, isObject, isRead⟩ := Option.bind_eq_some_iff.mp newRead
  rw [exists_ofRequest_eq_ok_iff]
  rintro (⟨other, alsoObject, unread⟩ | ⟨old, isOld, unread⟩ | ⟨noObject, _⟩)
  · obtain rfl := Option.some.inj (isObject.symm.trans alsoObject)
    have isSome : (decode json).isSome = true := isRead ▸ rfl
    exact Bool.noConfusion (isSome.symm.trans unread)
  · exact Bool.noConfusion ((oldReads old isOld).symm.trans unread)
  · cases isObject.symm.trans noObject

/-- The verdict on a ratio is to allow, with a warning if it is below the limit. -/
theorem Ratio.decision_verdict (total : Ratio) (limit : Decimal) :
    if total.isBelow limit then
      ∃ reason warning, (total.verdict limit).decision = .allow reason [warning]
    else ∃ reason, (total.verdict limit).decision = .allow reason [] := by
  unfold Ratio.verdict
  split
  · exact ⟨_, _, rfl⟩
  · exact ⟨_, rfl⟩

namespace Policy

variable {skipper : Skipper} {limit : Decimal} {request : Request} {cluster : Cluster}
  {workload : Workload} {pods : List Pod}

/-- The decision on fair use takes nothing but the pods of the namespace from a cluster. -/
theorem decision_fairUse (limit : Decimal) (noDeletion : request.operation ≠ .delete)
    (reviewed : request.object.bind Workload.ofJson? = some workload)
    (looked : (skipper.skip request cluster).result = .ok false)
    (listed : (Lookup.list Pod (some request.namespaceName) none cluster).result = .ok pods) :
    ((fairUse skipper limit).evaluate request cluster).decision =
      match States.ofRequest Workload.ofJson? request with
      | .error failure => .error 400 (.decode failure)
      | .ok _ =>
          match workload.totalWith request.name pods with
          | .ok total => (total.verdict limit).decision
          | .error failure => failure.decision := by
  rw [evaluate_decision_of_looked looked]
  unfold decideRequest
  have isDecode : (fairUse skipper limit).decode = Workload.ofJson? := rfl
  rw [isDecode]
  cases isRead : States.ofRequest Workload.ofJson? request with
  | error failure => rfl
  | ok states =>
      obtain ⟨old, new⟩ := states
      obtain rfl : new = request.object.bind Workload.ofJson? :=
        eq_bind_of_map_eq (States.of_ofRequest_eq_ok isRead).1
      simp only [fairUse, if_neg noDeletion, reviewed, Lookup.bind_of_result_eq_ok listed]
      cases workload.totalWith request.name pods <;> rfl

theorem decision_fairUse_agrees (noDeletion : request.operation ≠ .delete)
    (reviewed : request.object.bind Workload.ofJson? = some workload)
    (looked : (skipper.skip request cluster).result = .ok false)
    (listed : (Lookup.list Pod (some request.namespaceName) none cluster).result = .ok pods)
    {other : Cluster} {others : List Pod}
    (otherLooked : (skipper.skip request other).result = .ok false)
    (otherListed :
      (Lookup.list Pod (some request.namespaceName) none other).result = .ok others)
    (sameCounted : (pods.filter (workload.Counts request.name ·)).Perm
      (others.filter (workload.Counts request.name ·))) :
    ((fairUse skipper limit).evaluate request cluster).decision.Agrees
      ((fairUse skipper limit).evaluate request other).decision := by
  rw [decision_fairUse limit noDeletion reviewed looked listed,
    decision_fairUse limit noDeletion reviewed otherLooked otherListed]
  cases States.ofRequest Workload.ofJson? request with
  | error failure => exact .same _
  | ok states =>
      rcases workload.totalWith_perm request.name sameCounted with
        same | ⟨fault, otherFault, failed, otherFailed⟩
      · rw [same]
        exact .same _
      · rw [failed, otherFailed]
        exact .failed _ _ _

theorem allow_or_error_fairUse (limit : Decimal) (noDeletion : request.operation ≠ .delete)
    (reviewed : request.object.bind Workload.ofJson? = some workload)
    (looked : (skipper.skip request cluster).result = .ok false)
    (listed : (Lookup.list Pod (some request.namespaceName) none cluster).result = .ok pods) :
    (∃ reason warnings, ((fairUse skipper limit).evaluate request cluster).decision =
        .allow reason warnings) ∨
      ∃ code cause, ((fairUse skipper limit).evaluate request cluster).decision =
        .error code cause := by
  rw [decision_fairUse limit noDeletion reviewed looked listed]
  cases States.ofRequest Workload.ofJson? request with
  | error failure => exact .inr ⟨_, _, rfl⟩
  | ok states =>
      cases workload.totalWith request.name pods with
      | error failure => cases failure <;> exact .inr ⟨_, _, rfl⟩
      | ok total =>
          have decided := total.decision_verdict limit
          split at decided
          · obtain ⟨reason, warning, decided⟩ := decided
            exact .inl ⟨reason, [warning], decided⟩
          · obtain ⟨reason, decided⟩ := decided
            exact .inl ⟨reason, [], decided⟩

/-- A workload that is created or updated is never turned down for what it requests, and
nothing about it is changed.  What is decided depends on no pods but those that run and do not
belong to the workload, and not on their order: with the same of these another cluster gets the
same decision, but for what an error is due to.  Where they and the workload request nothing but
quantities, the workload is allowed, with one warning if and only if the ratio of their exact
sums is below the limit. -/
theorem decides_on_counted (limit : Decimal) (noDeletion : request.operation ≠ .delete)
    (reviewed : request.object.bind Workload.ofJson? = some workload)
    (looked : (skipper.skip request cluster).result = .ok false)
    (listed : (Lookup.list Pod (some request.namespaceName) none cluster).result = .ok pods) :
    let counted := pods.filter (workload.Counts request.name ·)
    let decision := ((fairUse skipper limit).evaluate request cluster).decision
    (∀ reason, decision ≠ .deny reason) ∧
      (∀ reason operations, decision ≠ .patch reason operations) ∧
      (∀ other others, (skipper.skip request other).result = .ok false →
        (Lookup.list Pod (some request.namespaceName) none other).result = .ok others →
        counted.Perm (others.filter (workload.Counts request.name ·)) →
          decision.Agrees ((fairUse skipper limit).evaluate request other).decision) ∧
      ((∀ json, request.oldObject = some json → (Workload.ofJson? json).isSome = true) →
        (∀ pod ∈ counted, pod.spec.all PodSpec.isCountable = true) →
        workload.template.all PodSpec.isCountable = true →
          ∃ total, workload.totalWith request.name pods = .ok total ∧
              total.cpu.toRat =
                (counted.map (Pod.requested "cpu")).sum + workload.requested "cpu" ∧
              total.memory.toRat =
                (counted.map (Pod.requested "memory")).sum + workload.requested "memory" ∧
              if total.isBelow limit then ∃ reason warning, decision = .allow reason [warning]
              else ∃ reason, decision = .allow reason []) := by
  dsimp only
  have isAllowOrError := allow_or_error_fairUse limit noDeletion reviewed looked listed
  refine ⟨?_, ?_, ?_, ?_⟩
  · intro reason decided
    rw [decided] at isAllowOrError
    rcases isAllowOrError with ⟨_, _, impossible⟩ | ⟨_, _, impossible⟩ <;> cases impossible
  · intro reason operations decided
    rw [decided] at isAllowOrError
    rcases isAllowOrError with ⟨_, _, impossible⟩ | ⟨_, _, impossible⟩ <;> cases impossible
  · intro other others otherLooked otherListed sameCounted
    exact decision_fairUse_agrees noDeletion reviewed looked listed otherLooked otherListed
      sameCounted
  · intro oldReads podsCountable countable
    have each (pod : Pod) (member : pod ∈ pods) (counts : workload.Counts request.name pod) :
        pod.spec.all PodSpec.isCountable = true :=
      podsCountable pod (List.mem_filter.mpr ⟨member, decide_eq_true counts⟩)
    obtain ⟨total, isTotal, cpu, memory⟩ :=
      workload.exists_totalWith_eq_ok request.name each countable
    obtain ⟨states, isRead⟩ := States.exists_ofRequest_eq_ok_of_new reviewed oldReads
    refine ⟨total, isTotal, cpu, memory, ?_⟩
    have decided := decision_fairUse limit noDeletion reviewed looked listed
    rw [isRead, isTotal] at decided
    rw [decided]
    exact total.decision_verdict limit

end Policy

/-! ### Pods that do not count -/

/-- A stored pod with one container. -/
def StoredObject.samplePod (name phase cpu memory : String) : StoredObject :=
  ⟨"Pod", "web", name, .object [("metadata", .object [("name", .text name)]),
    ("spec", .object [("containers", .array [.object [("resources", .object
      [("requests", .object [("cpu", .text cpu), ("memory", .text memory)])])]])]),
    ("status", .object [("phase", .text phase)])]⟩

/-- A cluster with a running pod and others in a namespace of an organization. -/
def Snapshot.sampleRunning (others : List StoredObject) : Snapshot where
  objects := ⟨"Namespace", "", "web", .object [("metadata", .object [("labels", .object
    [("appuio.io/organization", .text "acme")])])]⟩ ::
      .samplePod "db" "Running" "1" "1Gi" :: others
  failing := []
  roleBindings := []
  clusterRoleBindings := []

/-- Neither the pod under review nor one that is over counts, although they request no
quantities; the pod is allowed with a warning. -/
theorem Policy.decides_on_sampleRunning :
    let policy := fairUse Config.default.workloadSkipper ⟨4 * 1024 ^ 3, 0⟩
    let decision :=
      (policy.evaluate (.sampleRequesting "1") (Snapshot.sampleRunning []).toCluster).decision
    (∃ reason warning, decision = .allow reason [warning]) ∧
      decision.Agrees (policy.evaluate (.sampleRequesting "1")
        (Snapshot.sampleRunning [.samplePod "api" "Running" "lots" "none",
          .samplePod "job" "Succeeded" "lots" "none"]).toCluster).decision := by
  have looked : (Config.default.workloadSkipper.skip (.sampleRequesting "1")
      (Snapshot.sampleRunning []).toCluster).result = .ok false :=
    rfl
  have noDeletion : (Request.sampleRequesting "1").operation ≠ .delete := by decide
  obtain ⟨_, _, agrees, decides⟩ :=
    decides_on_counted ⟨4 * 1024 ^ 3, 0⟩ noDeletion rfl looked rfl
  obtain ⟨total, isTotal, _, _, decided⟩ := decides nofun (by decide) rfl
  let totals : Ratio := ⟨⟨2, 0⟩, ⟨1024 ^ 3, 0⟩⟩
  have isBelow : totals.isBelow ⟨4 * 1024 ^ 3, 0⟩ = true := by decide +kernel
  let requests : List (String × String) := [("memory", "1Gi"), ("cpu", "1")]
  have added : (Workload.pod ⟨.empty, some ⟨[⟨some (.ofList [("cpu", "1")])⟩], none⟩,
      none⟩).totalWith "api" [⟨⟨some "db", none, none, none, none⟩,
        some ⟨[⟨some (.ofList requests)⟩], none⟩, some "Running"⟩] = .ok totals := by
    decide +kernel
  obtain rfl : totals = total := Except.ok.inj (added.symm.trans isTotal)
  rw [if_pos isBelow] at decided
  exact ⟨decided, agrees _ _ rfl rfl (.refl _)⟩

end Tenancy
