import Tenancy.Cluster.Snapshot
import Tenancy.Proofs.Policy.Verdicts

/-!
# Which requests are skipped

The reason for letting a request pass tells whether a policy looked at it: no policy gives
the reason of a request that is skipped.  So what is skipped is what the skippers of a
configuration skip, the requests of exempt callers and those on pods and workloads outside
the namespaces of organizations.
-/

namespace Tenancy

/-! ## Reasons of verdicts -/

/-- A verdict does not give the reason of a request that is skipped. -/
def Verdict.OwnReason : Verdict → Prop
  | .allow reason _ => reason ≠ "skipped"
  | _ => True

namespace Verdict

instance : DecidablePred OwnReason
  | .allow reason _ => inferInstanceAs (Decidable (reason ≠ "skipped"))
  | .deny _ => inferInstanceAs (Decidable True)
  | .patch .. => inferInstanceAs (Decidable True)

/-- What is checked is let pass for the reason that goes with the check. -/
theorem ownReason_ofReport {ε : Type} [Described ε] {reason : String} {report : Report ε}
    (differs : reason ≠ "skipped") : (ofReport reason report).OwnReason := by
  unfold ofReport
  split
  · exact differs
  · trivial

theorem ownReason_patched {reason : String} (differs : reason ≠ "skipped")
    (operations : List PatchOperation) : (patched reason operations).OwnReason := by
  unfold patched
  split
  · exact differs
  · trivial

end Verdict

/-- Texts that begin differently are different. -/
theorem append_ne_of_head?_ne {first text : String} {head : Char}
    (isHead : first.toList.head? = some head) (differs : text.toList.head? ≠ some head)
    (rest : String) : first ++ rest ≠ text := by
  rintro rfl
  rw [String.toList_append, List.head?_append, isHead] at differs
  exact differs rfl

namespace OrganizationRules

theorem ownReason_decideNamed (caller : Caller) (organization : String) :
    (decideNamed caller organization).OwnReason := by
  unfold decideNamed
  split
  · exact append_ne_of_head?_ne rfl (by decide) organization
  · trivial

theorem ownReason_decideDefault (rules : OrganizationRules) (caller : Caller)
    (created : Namespace) (preferred : Option String) :
    (rules.decideDefault caller created preferred).OwnReason := by
  cases preferred with
  | none => trivial
  | some organization =>
      unfold decideDefault
      dsimp only
      split
      · exact Verdict.ownReason_patched (append_ne_of_head?_ne rfl (by decide) organization) _
      · trivial

theorem ownReason_decideKept (rules : OrganizationRules) (old : String) (new : Option String) :
    (rules.decideKept old new).OwnReason := by
  unfold decideKept
  split
  · decide
  · trivial

end OrganizationRules

theorem NodeSelectors.ownReason_complete (selector : SortedMap String) (pod : Pod) :
    (complete selector pod).OwnReason := by
  unfold complete
  dsimp only
  split
  · decide
  · exact Verdict.ownReason_patched (by decide) _

theorem NamespaceLimit.ownReason_decideCount (organization : String) (count quota : Nat) :
    (decideCount organization count quota).OwnReason := by
  unfold decideCount
  split
  · trivial
  · intro same
    have sameLength := congrArg String.length same
    have longer : " namespaces used".length = 16 ∧ "skipped".length = 7 := by decide
    simp only [String.length_append, longer] at sameLength
    omega

theorem Ratio.ownReason_verdict (ratio : Ratio) (limit : Decimal) :
    (ratio.verdict limit).OwnReason := by
  unfold verdict
  split
  · rw [String.append_assoc]
    exact append_ne_of_head?_ne rfl (by decide) _
  · exact append_ne_of_head?_ne rfl (by decide) _

theorem Globs.ownReason_decideName (reserved : Globs) (request : Request) (name : String) :
    (reserved.decideName request name).OwnReason := by
  unfold decideName
  split
  · trivial
  · decide

theorem Verdict.ownReason_noReserved (kind : String) :
    (allowed ("no reserved " ++ kind ++ " names")).OwnReason := by
  rw [String.append_assoc]
  exact append_ne_of_head?_ne rfl (by decide) _

/-! ## Skipped requests -/

namespace Policy

variable {α : Type} {policy : Policy α} {request : Request} {cluster : Cluster}

/-- A policy that has looked at a request does not say that it is skipped. -/
theorem decision_decideRequest_ne_skipped
    (own : ∀ states, (policy.decide request states cluster).Concludes Verdict.OwnReason)
    (warnings : List String) :
    (policy.decideRequest request cluster).decision ≠ .allow "skipped" warnings := by
  intro decided
  have noError (code : Nat) (cause : Failure) :
      (policy.decideRequest request cluster).decision ≠ .error code cause := by
    rw [decided]
    exact Decision.noConfusion
  obtain ⟨states, verdict, _, concluded, isVerdict⟩ := exists_verdict_of_ne_error noError
  rw [decided] at isVerdict
  have differs := own states verdict concluded
  cases verdict <;> cases isVerdict
  exact differs rfl

/-- A policy that gives reasons of its own skips exactly what its skipper skips. -/
theorem decision_evaluate_eq_skipped_iff
    (own : ∀ states, (policy.decide request states cluster).Concludes Verdict.OwnReason) :
    (∃ warnings, (policy.evaluate request cluster).decision = .allow "skipped" warnings) ↔
      (policy.skipper.skip request cluster).result = .ok true := by
  unfold evaluate
  dsimp only
  cases (policy.skipper.skip request cluster).result with
  | error failure =>
      refine iff_of_false ?_ (by simp)
      rintro ⟨warnings, decided⟩
      cases decided
  | ok skips =>
      cases skips with
      | true => exact iff_of_true ⟨[], rfl⟩ rfl
      | false =>
          refine iff_of_false ?_ (by simp)
          rintro ⟨warnings, decided⟩
          exact decision_decideRequest_ne_skipped own warnings decided

end Policy

namespace Config

variable {config : Config} {handlers : List Handler} {handler : Handler} {request : Request}
  {cluster : Cluster} {bindings clusterBindings : List RoleBinding}

/-- A caller is exempt from the policies of a configuration, in the namespace of a
request. -/
def Exempts (config : Config) (bindings clusterBindings : List RoleBinding)
    (request : Request) : Prop :=
  Privileges.Exempt
    { groups := .ofPatterns config.privilegedGroups
      users := .ofPatterns config.privilegedUsers
      roles := .ofPatterns config.privilegedRoles
      clusterRoles := .ofPatterns config.privilegedClusterRoles }
    bindings clusterBindings request.caller request.namespaceName

theorem exists_result_privilegedSkipper (binds : cluster.Binds bindings clusterBindings)
    (config : Config) (request : Request) :
    ∃ skips, (config.privilegedSkipper.skip request cluster).result = .ok skips ∧
      (skips = true ↔ config.Exempts bindings clusterBindings request) :=
  Privileges.exists_result_covers binds config.privileges request.caller request.namespaceName

theorem result_privilegedSkipper_eq_true_iff (binds : cluster.Binds bindings clusterBindings) :
    (config.privilegedSkipper.skip request cluster).result = .ok true ↔
      config.Exempts bindings clusterBindings request := by
  obtain ⟨skips, result, skipsIff⟩ := exists_result_privilegedSkipper binds config request
  rw [result, Except.ok.injEq, skipsIff]

theorem result_workloadSkipper_eq_true_iff (binds : cluster.Binds bindings clusterBindings) :
    (config.workloadSkipper.skip request cluster).result = .ok true ↔
      config.Exempts bindings clusterBindings request ∨
        request.OutsideOrganizations cluster config.organizationLabel := by
  obtain ⟨skips, result, skipsIff⟩ := exists_result_privilegedSkipper binds config request
  rw [workloadSkipper, Skipper.skip, Skipper.result_skipAny_cons_eq_true_iff,
    Skipper.result_skipAny_singleton_eq_true_iff, result,
    Skipper.result_outsideOrganizations_eq_true_iff, ← skipsIff]
  cases skips <;> simp

section Policy

variable {α : Type} {policy : Policy α}

theorem skipped_iff_of_privileged (binds : cluster.Binds bindings clusterBindings)
    (skipper : policy.skipper = config.privilegedSkipper)
    (named : policy.name ≠ "node-selector" ∧ policy.name ≠ "fair-use-ratio")
    (own : ∀ states, (policy.decide request states cluster).Concludes Verdict.OwnReason) :
    (∃ warnings,
        (policy.handler.evaluate request cluster).decision = .allow "skipped" warnings) ↔
      config.Exempts bindings clusterBindings request ∨
        (policy.handler.name = "node-selector" ∨ policy.handler.name = "fair-use-ratio") ∧
          request.OutsideOrganizations cluster config.organizationLabel := by
  rw [Policy.handler, Policy.decision_evaluate_eq_skipped_iff own, skipper,
    result_privilegedSkipper_eq_true_iff binds]
  exact (or_iff_left fun workloads => not_or.mpr named workloads.1).symm

theorem skipped_iff_of_workload (binds : cluster.Binds bindings clusterBindings)
    (skipper : policy.skipper = config.workloadSkipper)
    (named : policy.name = "node-selector" ∨ policy.name = "fair-use-ratio")
    (own : ∀ states, (policy.decide request states cluster).Concludes Verdict.OwnReason) :
    (∃ warnings,
        (policy.handler.evaluate request cluster).decision = .allow "skipped" warnings) ↔
      config.Exempts bindings clusterBindings request ∨
        (policy.handler.name = "node-selector" ∨ policy.handler.name = "fair-use-ratio") ∧
          request.OutsideOrganizations cluster config.organizationLabel := by
  rw [Policy.handler, Policy.decision_evaluate_eq_skipped_iff own, skipper,
    result_workloadSkipper_eq_true_iff binds]
  exact or_congr_right (and_iff_right named).symm

end Policy

/-- The handlers of a configuration skip the requests of exempt callers, and the two on
pods and workloads also those outside the namespaces of organizations. -/
theorem Makes.skipped_iff (makes : config.Makes handler)
    (binds : cluster.Binds bindings clusterBindings) :
    (∃ warnings, (handler.evaluate request cluster).decision = .allow "skipped" warnings) ↔
      config.Exempts bindings clusterBindings request ∨
        (handler.name = "node-selector" ∨ handler.name = "fair-use-ratio") ∧
          request.OutsideOrganizations cluster config.organizationLabel := by
  cases makes with
  | namespaceMetadata =>
      exact skipped_iff_of_privileged binds rfl (by simp [Policy.namespaceMetadata])
        (Policy.concludes_namespaceMetadata (by decide)
          fun _ => Verdict.ownReason_ofReport (by decide))
  | organization =>
      exact skipped_iff_of_privileged binds rfl (by simp [Policy.organization])
        (OrganizationRules.concludes_decide (by decide) (OrganizationRules.ownReason_decideKept _)
          (OrganizationRules.ownReason_decideNamed _)
          (OrganizationRules.ownReason_decideDefault _ _) (by decide))
  | nodeSelector =>
      exact skipped_iff_of_workload binds rfl (.inl rfl)
        (Policy.concludes_nodeSelector (by decide) (by decide) NodeSelectors.ownReason_complete)
  | namespaceQuota =>
      exact skipped_iff_of_privileged binds rfl (by simp [Policy.namespaceQuota])
        (Policy.concludes_namespaceQuota (by decide) (by decide)
          NamespaceLimit.ownReason_decideCount)
  | fairUse =>
      exact skipped_iff_of_workload binds rfl (.inr rfl)
        (Policy.concludes_fairUse (by decide) (by decide) fun ratio => ratio.ownReason_verdict _)
  | reservedNames =>
      exact skipped_iff_of_privileged binds rfl (by simp [Policy.reservedNames])
        (Policy.concludes_reservedNames (Verdict.ownReason_noReserved request.kind)
          fun reserved => reserved.ownReason_decideName request)
  | loadBalancer =>
      exact skipped_iff_of_privileged binds rfl (by simp [Policy.loadBalancer])
        (Policy.concludes_loadBalancer (by decide) (by decide)
          fun _ => Verdict.ownReason_ofReport (by decide))

/-- Where the bindings of roles can be looked up, a policy of a configuration skips a request
exactly if its caller is exempt by the configured groups, users and roles, or if the policy
is one of the two on pods and workloads and the namespace of the request exists without an
organization. -/
theorem isSkipped_iff_of_mem_policies (built : config.policies = .ok handlers)
    (member : handler ∈ handlers) (binds : cluster.Binds bindings clusterBindings)
    (request : Request) :
    (∃ warnings, (handler.evaluate request cluster).decision = .allow "skipped" warnings) ↔
      config.Exempts bindings clusterBindings request ∨
        (handler.name = "node-selector" ∨ handler.name = "fair-use-ratio") ∧
          request.OutsideOrganizations cluster config.organizationLabel :=
  (makes_of_mem_policies built member).skipped_iff binds

/-! ### A service account with a privileged role -/

/-- A configuration that exempts administrators of one namespace. -/
def samplePrivileged : Config :=
  { Config.default with privilegedRoles := ["web:adm*"] }

end Config

/-- A role that is bound to a service account of another namespace. -/
def RoleBinding.sample : RoleBinding where
  metadata := ⟨some "deployers", none, some "web", none, none⟩
  role := "admin"
  subjects := [⟨"ServiceAccount", "bot", some "ci"⟩]

/-- A cluster in which one role is bound. -/
def Snapshot.sampleBound : Snapshot where
  objects := []
  failing := []
  roleBindings := [.sample]
  clusterRoleBindings := []

/-- A request of a service account to delete a namespace. -/
def Request.sampleDelete : Request where
  caller := ⟨"system:serviceaccount:ci:bot", []⟩
  namespaceName := "web"
  name := "web"
  kind := "Namespace"
  operation := .delete
  oldObject := some (.object [])
  object := none

/-- The service account is let past the policy on reserved names. -/
theorem Config.isSkipped_sampleDelete :
    ∃ handlers handler, Config.samplePrivileged.policies = .ok handlers ∧ handler ∈ handlers ∧
      handler.name = "reserved-names" ∧
      ∃ warnings, (handler.evaluate .sampleDelete Snapshot.sampleBound.toCluster).decision =
        .allow "skipped" warnings := by
  have built : ∃ handlers, samplePrivileged.policies = .ok handlers ∧
      (Policy.reservedNames samplePrivileged.privilegedSkipper
        samplePrivileged.reservedGlobs).handler ∈ handlers :=
    ⟨_, rfl, by simp⟩
  obtain ⟨handlers, built, member⟩ := built
  have means : Subject.Means ⟨"ServiceAccount", "bot", some "ci"⟩
      Request.sampleDelete.caller :=
    .serviceAccount rfl rfl (by decide) rfl
  refine ⟨handlers, _, built, member, rfl, ?_⟩
  refine (isSkipped_iff_of_mem_policies built member (Snapshot.binds_toCluster rfl)
    Request.sampleDelete).mpr (.inl ?_)
  have isMatch : (Globs.ofPatterns ["web:adm*"]).isMatch ("web" ++ ":" ++ "admin") = true := rfl
  exact .role List.mem_cons_self (.inr rfl) List.mem_cons_self means isMatch

end Tenancy
