import Tenancy.Proofs.Policy.Convergence
import Tenancy.Proofs.Policy.FailClosed

/-!
# What the caller has to mend

Whether a request is skipped has nothing to do with the objects that it carries.  A request
that is not skipped is the caller's to mend if an object cannot be read or none is there, and
otherwise only if a workload under review has a request that is no quantity.
-/

namespace Tenancy

/-! ## Objects that a policy can use -/

/-- An object that a request carries cannot be read, or it carries none. -/
def Request.IsUnusable (reads : Json → Bool) (request : Request) : Prop :=
  (∃ json, request.object = some json ∧ reads json = false) ∨
    (∃ json, request.oldObject = some json ∧ reads json = false) ∨
    request.object = none ∧ request.oldObject = none

namespace States

variable {α : Type} {decode : Json → Option α} {request : Request}

/-- The states of a request are read unless it is unusable. -/
theorem exists_ofRequest_eq_ok_iff :
    (∃ states, ofRequest decode request = .ok states) ↔
      ¬ request.IsUnusable fun json => (decode json).isSome := by
  unfold ofRequest Request.IsUnusable
  cases request.object with
  | none =>
      cases request.oldObject with
      | none => simp [decodeField, bind, Except.bind]
      | some old =>
          cases oldRead : decode old <;>
            simp [decodeField, oldRead, bind, Except.bind, pure, Except.pure]
  | some new =>
      cases newRead : decode new with
      | none => simp [decodeField, newRead, bind, Except.bind]
      | some object =>
          cases request.oldObject with
          | none => simp [decodeField, newRead, bind, Except.bind, pure, Except.pure]
          | some old =>
              cases oldRead : decode old <;>
                simp [decodeField, newRead, oldRead, bind, Except.bind, pure, Except.pure]

end States

/-! ## Deciding -/

/-- The decision on a failure blames the caller exactly if it is not internal. -/
theorem Failure.decision_eq_badRequest_iff {failure : Failure} :
    (∃ cause, failure.decision = .error 400 cause) ↔ failure.isInternal = false := by
  cases failure with
  | decode failure => exact iff_of_true ⟨_, rfl⟩ rfl
  | _ =>
      refine iff_of_false ?_ (by simp [isInternal])
      rintro ⟨cause, decided⟩
      exact absurd (Decision.error.inj decided).1 (by decide)

/-- A look-up that fails only where it is blocked fails internally. -/
theorem Outcome.EndsAt.isInternal {α : Type} {blocks : Call → Prop} {outcome : Outcome α}
    (ends : outcome.EndsAt blocks fun _ => False) {failure : Failure}
    (failed : outcome.result = .error failure) : failure.isInternal = true := by
  rcases ends.blocked failed with impossible | ⟨call, asked, isBlocking⟩
  · cases impossible
  · obtain ⟨before, after, split⟩ := List.append_of_mem asked
    obtain ⟨_, cause, alsoFailed, isInternal⟩ := ends.last split isBlocking
    obtain rfl : failure = cause := Except.error.inj (failed.symm.trans alsoFailed)
    exact isInternal

/-- A handler skips requests before it looks at their objects: what its skipper says settles
the decision, and only of a request that it does not skip are the objects read.  Of those,
the caller's to mend are the ones with unusable objects, about which nothing is looked up,
and the ones that the caller is to blame for otherwise. -/
structure Handler.SkipsFirst (handler : Handler) (skipper : Skipper)
    (reads : Json → Bool) (request : Request) (cluster : Cluster) (isCallers : Prop) : Prop where
  failed : ∀ failure, (skipper.skip request cluster).result = .error failure →
    handler.evaluate request cluster =
      ⟨(skipper.skip request cluster).calls,
        .error 500 (.during "failed to evaluate skip" failure)⟩
  skipped : (skipper.skip request cluster).result = .ok true →
    handler.evaluate request cluster =
      ⟨(skipper.skip request cluster).calls, .allow "skipped" []⟩
  unusable : (skipper.skip request cluster).result = .ok false → request.IsUnusable reads →
    (handler.evaluate request cluster).calls = (skipper.skip request cluster).calls
  blamed : (skipper.skip request cluster).result = .ok false →
    ((∃ cause, (handler.evaluate request cluster).decision = .error 400 cause) ↔
      request.IsUnusable reads ∨ isCallers)

namespace Policy

variable {α : Type} {policy : Policy α} {request : Request} {cluster : Cluster}

/-- A request that is unusable is turned down without a question. -/
theorem exists_decideRequest_eq_badRequest (cluster : Cluster)
    (unusable : request.IsUnusable fun json => (policy.decode json).isSome) :
    ∃ cause, policy.decideRequest request cluster = ⟨[], .error 400 cause⟩ := by
  unfold decideRequest
  cases isRead : States.ofRequest policy.decode request with
  | error failure => exact ⟨.decode failure, rfl⟩
  | ok states => exact absurd unusable (States.exists_ofRequest_eq_ok_iff.mp ⟨states, isRead⟩)

/-- A request is the caller's to mend if it is unusable, and otherwise if deciding on its
states fails by the caller's fault. -/
theorem exists_decision_eq_badRequest_iff {isCallers : Prop}
    (each : ∀ {states}, States.ofRequest policy.decode request = .ok states →
      ((∃ failure, (policy.decide request states cluster).result = .error failure ∧
        failure.isInternal = false) ↔ isCallers)) :
    (∃ cause, (policy.decideRequest request cluster).decision = .error 400 cause) ↔
      (request.IsUnusable fun json => (policy.decode json).isSome) ∨ isCallers := by
  by_cases unusable : request.IsUnusable fun json => (policy.decode json).isSome
  · obtain ⟨cause, turnedDown⟩ := exists_decideRequest_eq_badRequest cluster unusable
    exact iff_of_true ⟨cause, congrArg Evaluation.decision turnedDown⟩ (.inl unusable)
  · obtain ⟨states, isRead⟩ := States.exists_ofRequest_eq_ok_iff.mpr unusable
    rw [or_iff_right unusable, ← each isRead]
    simp only [decideRequest, isRead]
    cases (policy.decide request states cluster).result with
    | ok verdict =>
        refine iff_of_false ?_ (by simp)
        rintro ⟨cause, decided⟩
        cases verdict <;> cases decided
    | error failure =>
        simp only [Except.error.injEq, exists_eq_left']
        exact Failure.decision_eq_badRequest_iff

/-- The handler of a policy skips requests first. -/
theorem skipsFirst_handler (policy : Policy α) {isCallers : Prop}
    (each : ∀ {states}, States.ofRequest policy.decode request = .ok states →
      ((∃ failure, (policy.decide request states cluster).result = .error failure ∧
        failure.isInternal = false) ↔ isCallers)) :
    policy.handler.SkipsFirst policy.skipper (fun json => (policy.decode json).isSome) request
      cluster isCallers where
  failed failure failed := by
    simp only [handler, evaluate, failed]
    rfl
  skipped skips := by
    simp only [handler, evaluate, skips]
    rfl
  unusable looked unusable := by
    obtain ⟨cause, turnedDown⟩ := exists_decideRequest_eq_badRequest cluster unusable
    simp only [handler, evaluate, looked, turnedDown, List.append_nil]
  blamed looked := by
    rw [handler, evaluate_decision_of_looked looked]
    exact exists_decision_eq_badRequest_iff each

end Policy

/-! ## The policies of a configuration -/

/-- The skipper of the policy of a name: those on pods and workloads let everything pass
outside the namespaces of organizations. -/
def Config.skipperOf (config : Config) (name : String) : Skipper :=
  if name = "node-selector" ∨ name = "fair-use-ratio" then config.workloadSkipper
  else config.privilegedSkipper

/-- Whether the policy of a name can read an object. -/
def Policy.readsAs (name : String) (json : Json) : Bool :=
  if name = "node-selector" then (Served.ofJson? (α := Pod) json).isSome
  else if name = "fair-use-ratio" then (Workload.ofJson? json).isSome
  else if name = "reserved-names" then (AnyObject.ofJson? json).isSome
  else if name = "load-balancer-annotations" then (Served.ofJson? (α := Service) json).isSome
  else (Served.ofJson? (α := Namespace) json).isSome

/-- A request is to put a workload there whose containers request something that is no
quantity, although the pods of the namespace are listed and those that count can be added
up. -/
def Request.IsUncountable (request : Request) (cluster : Cluster) : Prop :=
  request.operation ≠ .delete ∧ ∃ workload pods template container,
    request.object.bind Workload.ofJson? = some workload ∧
      (Lookup.list Pod (some request.namespaceName) none cluster).result = .ok pods ∧
      (∀ pod ∈ pods, workload.Counts request.name pod →
        pod.spec.all PodSpec.isCountable = true) ∧
      workload.template = some template ∧ container ∈ template.containers ∧
      container.isCountable = false

/-- A workload that cannot be added up has a container whose requests are no quantities. -/
theorem Workload.template_all_eq_false_iff {workload : Workload} :
    workload.template.all PodSpec.isCountable = false ↔
      ∃ template container, workload.template = some template ∧
        container ∈ template.containers ∧ container.isCountable = false := by
  cases workload.template with
  | none => simp
  | some template => simp [PodSpec.isCountable]

/-- The policy on fair use fails by the caller's fault exactly at a workload that cannot be
added up. -/
theorem Policy.fails_fairUse_iff {skipper : Skipper} {limit : Decimal} {request : Request}
    {cluster : Cluster} {states : States Workload}
    (isRead : States.ofRequest Workload.ofJson? request = .ok states) :
    (∃ failure,
        ((fairUse skipper limit).decide request states cluster).result = .error failure ∧
          failure.isInternal = false) ↔ request.IsUncountable cluster := by
  obtain ⟨old, new⟩ := states
  obtain rfl : new = request.object.bind Workload.ofJson? :=
    eq_bind_of_map_eq (States.of_ofRequest_eq_ok isRead).1
  simp only [fairUse, Request.IsUncountable]
  split
  next deletion =>
    refine iff_of_false ?_ (fun uncountable => uncountable.1 deletion)
    rintro ⟨failure, failed, _⟩
    cases failed
  next noDeletion =>
    rw [and_iff_right noDeletion]
    cases request.object.bind Workload.ofJson? with
    | none => exact iff_of_false (by rintro ⟨_, failed, _⟩; cases failed) (by simp)
    | some workload =>
        dsimp only
        cases listed : (Lookup.list Pod (some request.namespaceName) none cluster).result with
        | error cause =>
            obtain ⟨fetch, rfl⟩ := (Lookup.answers_list cluster _ _).isFetch listed
            rw [Lookup.bind_of_result_eq_error listed]
            refine iff_of_false ?_ (by simp)
            rintro ⟨failure, failed, isCallers⟩
            cases failed
            cases isCallers
        | ok pods =>
            have fails_iff : (∃ failure, ((do
                let ratio ← Lookup.ofExcept (workload.totalWith request.name pods)
                return ratio.verdict limit : Lookup Verdict) cluster).result = .error failure ∧
                  failure.isInternal = false) ↔
                ∃ failure, workload.totalWith request.name pods = .error failure ∧
                  failure.isInternal = false := by
              cases workload.totalWith request.name pods <;>
                simp [Lookup.ofExcept, bind, Lookup.bind, pure, Lookup.pure]
            rw [Lookup.bind_of_result_eq_ok listed, fails_iff,
              workload.totalWith_isCallers_iff, Workload.template_all_eq_false_iff]
            simp

namespace Config

variable {config : Config} {handlers : List Handler} {handler : Handler} {request : Request}
  {cluster : Cluster}

/-- The skippers of a configuration go by the caller and the namespace of a request. -/
theorem skip_skipperOf_congr (config : Config) (name : String) {request other : Request}
    (sameCaller : request.caller = other.caller)
    (sameNamespace : request.namespaceName = other.namespaceName) :
    (config.skipperOf name).skip request = (config.skipperOf name).skip other := by
  have privileged : config.privilegedSkipper.skip request =
      config.privilegedSkipper.skip other := by
    rw [privilegedSkipper, Skipper.privileged, Skipper.skip, Skipper.skip, sameCaller,
      sameNamespace]
  unfold skipperOf
  split
  · refine Skipper.skip_anyOf_congr fun child member => ?_
    rcases List.mem_cons.mp member with rfl | member
    · exact privileged
    · obtain rfl := List.mem_singleton.mp member
      rw [Skipper.outsideOrganizations, Skipper.skip, Skipper.skip, sameNamespace]
  · exact privileged

/-- A policy other than that on fair use fails only where an answer is blocked, so it never
blames the caller for the states of a request. -/
theorem skipsFirst_of_endsAt {α : Type} {policy : Policy α}
    (named : policy.name ≠ "fair-use-ratio")
    (skipper : policy.skipper = config.skipperOf policy.name)
    (reads : ∀ json, Policy.readsAs policy.name json = (policy.decode json).isSome)
    (ends : ∀ states, (policy.decide request states cluster).EndsAt (Call.Blocks request cluster)
      fun _ => False) :
    policy.handler.SkipsFirst (config.skipperOf policy.name) (Policy.readsAs policy.name) request
      cluster (policy.name = "fair-use-ratio" ∧ request.IsUncountable cluster) := by
  rw [← skipper, funext reads]
  refine policy.skipsFirst_handler fun {states} _ => ?_
  refine iff_of_false ?_ fun uncountable => named uncountable.1
  rintro ⟨failure, failed, isCallers⟩
  rw [(ends states).isInternal failed] at isCallers
  cases isCallers

/-- Every handler that a configuration makes skips requests first. -/
theorem Makes.skipsFirst (makes : config.Makes handler) (request : Request) (cluster : Cluster) :
    handler.SkipsFirst (config.skipperOf handler.name) (Policy.readsAs handler.name) request
      cluster (handler.name = "fair-use-ratio" ∧ request.IsUncountable cluster) := by
  cases makes with
  | namespaceMetadata =>
      exact skipsFirst_of_endsAt (by simp [Policy.namespaceMetadata]) rfl (fun _ => rfl)
        fun states => Policy.endsAt_namespaceMetadata _ _ states
  | organization =>
      exact skipsFirst_of_endsAt (by simp [Policy.organization]) rfl (fun _ => rfl)
        fun states => OrganizationRules.endsAt_decide _ request states
  | nodeSelector =>
      exact skipsFirst_of_endsAt (by simp [Policy.nodeSelector]) rfl (fun _ => rfl)
        fun states => Policy.endsAt_nodeSelector _ _ states
  | namespaceQuota =>
      exact skipsFirst_of_endsAt (by simp [Policy.namespaceQuota]) rfl (fun _ => rfl)
        fun states => Policy.endsAt_namespaceQuota _ _ states
  | fairUse =>
      refine Policy.skipsFirst_handler (Policy.fairUse config.workloadSkipper _)
        fun {states} isRead => ?_
      rw [Policy.fails_fairUse_iff isRead]
      exact (and_iff_right rfl).symm
  | reservedNames =>
      exact skipsFirst_of_endsAt (by simp [Policy.reservedNames]) rfl (fun _ => rfl)
        fun states => Policy.endsAt_reservedNames _ _ states
  | loadBalancer =>
      exact skipsFirst_of_endsAt (by simp [Policy.loadBalancer]) rfl (fun _ => rfl)
        fun states => Policy.endsAt_loadBalancer _ _ states

end Config

/-! ### A pod that requests no quantity -/

/-- A request to create a pod with a container that requests some cores. -/
def Request.sampleRequesting (cpu : String) : Request where
  caller := ⟨"alice", ["acme"]⟩
  namespaceName := "web"
  name := "api"
  kind := "Pod"
  operation := .create
  oldObject := none
  object := some (.object [("kind", .text "Pod"), ("spec", .object [("containers", .array
    [.object [("resources", .object [("requests", .object [("cpu", .text cpu)])])]])])])

end Tenancy
