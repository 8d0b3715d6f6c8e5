import Tenancy.Proofs.Cluster.History
import Tenancy.Proofs.Cluster.Snapshot
import Tenancy.Proofs.Policy.Basic
import Tenancy.Proofs.Policy.MetadataFaults

/-!
# Namespace metadata over the history of a namespace

The policy looks at what one request changes.  What a history has changed since its first
state was changed by one of its requests, and it has stayed as that request left it.  So
the rules hold of all changes together, and overrides of quotas that came in later are in
order when all annotations are resolved.
-/

namespace Tenancy

/-! ## Changes within the rules -/

/-- A change of metadata is within the rules: only labels and annotations that globs allow
differ, and each label and each override of a quota that is new, or has a new value, is
allowed to have it. -/
structure MetadataRules.Permits (rules : MetadataRules) (initial current : Metadata) : Prop where
  labels : ∀ {key}, rules.labels.isMatch key = false →
    current.allLabels.get? key = initial.allLabels.get? key
  annotations : ∀ {key}, rules.annotations.isMatch key = false →
    current.allAnnotations.get? key = initial.allAnnotations.get? key
  labelValues : ∀ {list}, rules.labelValues = some list →
    ∀ {key value}, current.allLabels.get? key = some value →
      initial.allLabels.get? key ≠ some value → list.allows key value = true
  overrides : ∀ {resolver}, rules.overrides = some resolver →
    ∀ {key value}, current.allAnnotations.get? key = some value →
      initial.allAnnotations.get? key ≠ some value → resolver.Accepts (key, value)

namespace MetadataRules

variable {rules : MetadataRules} {initial middle current : Metadata}

theorem Permits.refl (rules : MetadataRules) (metadata : Metadata) :
    rules.Permits metadata metadata where
  labels _ := rfl
  annotations _ := rfl
  labelValues _ _ _ isValue differs := absurd isValue differs
  overrides _ _ _ isValue differs := absurd isValue differs

/-- Changes within the rules, one after the other, make a change within the rules. -/
theorem Permits.trans (first : rules.Permits initial middle)
    (second : rules.Permits middle current) : rules.Permits initial current where
  labels unmatched := (second.labels unmatched).trans (first.labels unmatched)
  annotations unmatched := (second.annotations unmatched).trans (first.annotations unmatched)
  labelValues {list} restricted {key value} isValue differs := by
    -- a value that is there in between came with the first change, any other with the second
    by_cases before : middle.allLabels.get? key = some value
    · exact first.labelValues restricted before differs
    · exact second.labelValues restricted isValue before
  overrides {resolver} overridable {key value} isValue differs := by
    by_cases before : middle.allAnnotations.get? key = some value
    · exact first.overrides overridable before differs
    · exact second.overrides overridable isValue before

end MetadataRules

/-- An annotation that may come is in order. -/
theorem OverrideResolver.Allows.accepts {resolver : OverrideResolver} {entry : String × String}
    (allows : resolver.Allows entry) : resolver.Accepts entry := by
  obtain ⟨wellFormed, quantities⟩ := allows _ (reads_iff.mpr rfl)
  constructor
  case isRead => rwa [faults_eq, Reading.faults_eq_nil_iff]
  case quantities =>
    intro quota override isOverride
    rw [overridesFor_eq] at isOverride
    rw [LimitOverride.faults_eq_nil_iff]
    exact quantities override (Reading.mem_limits_of_mem_limitsFor isOverride)

namespace MetadataRules

variable {rules : MetadataRules} {old new : Metadata}

/-- A change that is allowed is within the rules. -/
theorem Allows.permits (allows : rules.Allows old new) : rules.Permits old new where
  labels {key} unmatched := by
    by_contra differs
    have isMatch := allows.labels key (Ne.symm differs)
    rw [unmatched] at isMatch
    cases isMatch
  annotations {key} unmatched := by
    by_contra differs
    have isMatch := allows.annotations key (Ne.symm differs)
    rw [unmatched] at isMatch
    cases isMatch
  labelValues {list} restricted {key value} isValue differs := by
    have allowed := allows.labelValues (key, value) ⟨isValue, differs⟩ list restricted
    simpa [AllowList.allows] using allowed
  overrides {resolver} overridable {key value} isValue differs :=
    (allows.overrides resolver overridable (key, value) ⟨isValue, differs⟩).accepts

end MetadataRules

/-! ## One request -/

/-- The requests that the policy admits in the life of a namespace, from when it is created.
One that creates a namespace carries no earlier state of it. -/
def Policy.namespaceMetadataGate (skipper : Skipper) (rules : MetadataRules) : Gate String :=
  fun _ cluster request admitted =>
    request.operation ≠ .delete ∧ (request.operation = .create → request.oldObject = none) ∧
      (Policy.namespaceMetadata skipper rules).Admits cluster request admitted

/-- The metadata of a namespace that is stored, and none if it is not. -/
def Inventory.metadataAt (inventory : Inventory String) (name : String) : Metadata :=
  metadataOf ((inventory.lookup name).bind fun life => Served.ofJson? life.current)

section Step

variable {skipper : Skipper} {rules : MetadataRules}

/-- A request that is admitted goes on as it came, and what it changes is within the
rules. -/
theorem Policy.namespaceMetadata_admits {cluster : Cluster} {request admitted : Request}
    (notDelete : request.operation ≠ .delete)
    (admits : (Policy.namespaceMetadata skipper rules).Admits cluster request admitted) :
    admitted = request ∧ rules.Permits (metadataOf (request.oldObject.bind Served.ofJson?))
      (metadataOf (request.object.bind Served.ofJson?)) := by
  obtain ⟨states, verdict, isRead, concluded, goesOn⟩ := admits.exists_verdict
  obtain ⟨newRead, oldRead⟩ := States.of_ofRequest_eq_ok isRead
  have newEq := eq_bind_of_map_eq newRead
  have oldEq := eq_bind_of_map_eq oldRead
  simp only [Policy.namespaceMetadata, if_neg notDelete] at concluded newEq oldEq
  cases concluded
  unfold Verdict.ofReport at goesOn
  split at goesOn
  next noFault =>
    rw [newEq, oldEq] at noFault
    exact ⟨Verdict.eq_of_carryOut?_allowed goesOn,
      (MetadataRules.isEmpty_faults_iff.mp noFault).permits⟩
  next => cases goesOn

/-- One request changes the metadata of every namespace within the rules. -/
theorem Commit.permits_metadataAt {first last : Inventory String}
    (step : Commit Request.name (Policy.namespaceMetadataGate skipper rules) first last)
    (name : String) : rules.Permits (first.metadataAt name) (last.metadataAt name) := by
  have elsewhere {inventory : Inventory String} {stored : String} {life : Lifetime}
      (different : name ≠ stored) :
      Inventory.metadataAt (inventory.insert stored life) name = inventory.metadataAt name := by
    rw [Inventory.metadataAt, AList.lookup_insert_ne different, Inventory.metadataAt]
  have stored {inventory : Inventory String} {life : Lifetime} :
      Inventory.metadataAt (inventory.insert name life) name =
        metadataOf (Served.ofJson? life.current) := by
    rw [Inventory.metadataAt, AList.lookup_insert, Option.bind_some]
  cases step with
  | create cluster request operation absent admits carried =>
      by_cases same : name = request.name
      · subst same
        obtain ⟨rfl, permits⟩ := Policy.namespaceMetadata_admits admits.1 admits.2.2
        rw [stored, Inventory.metadataAt, absent]
        rw [carried, admits.2.1 operation] at permits
        exact permits
      · rw [elsewhere same]
        exact .refl rules _
  | update cluster request operation isStored carriesStored admits carried =>
      by_cases same : name = request.name
      · subst same
        obtain ⟨rfl, permits⟩ := Policy.namespaceMetadata_admits admits.1 admits.2.2
        rw [stored, Inventory.metadataAt, isStored]
        rw [carried, carriesStored] at permits
        exact permits
      · rw [elsewhere same]
        exact .refl rules _
  | delete cluster request operation admits => exact absurd operation admits.1

/-- A history changes the metadata of every namespace within the rules. -/
theorem Reaches.permits_metadataAt {first last : Inventory String}
    (run : Reaches Request.name (Policy.namespaceMetadataGate skipper rules) first last)
    (name : String) : rules.Permits (first.metadataAt name) (last.metadataAt name) := by
  induction run with
  | refl => exact .refl rules _
  | tail _ step inductionHypothesis =>
      exact inductionHypothesis.trans (step.permits_metadataAt name)

end Step

/-! ## Histories -/

section History

variable {skipper : Skipper} {rules : MetadataRules} {list : AllowList}
  {resolver : OverrideResolver}

/-- In every history of a namespace, from its first state or from when it is created, what
no glob allows to change stays as it was, the labels that changed have values that a rule
allows, and the annotations that changed have no part in what is reported when all are
resolved and applied to quotas.  If it had no annotations at first, nothing is reported. -/
theorem Namespace.metadataAt_of_reaches (restricted : rules.labelValues = some list)
    (overridable : rules.overrides = some resolver) {first last : Inventory String}
    (run : Reaches Request.name (Policy.namespaceMetadataGate skipper rules) first last)
    (name : String) :
    let initial := first.metadataAt name
    let current := last.metadataAt name
    (∀ key, rules.labels.isMatch key = false →
        current.allLabels.get? key = initial.allLabels.get? key) ∧
      (∀ key, rules.annotations.isMatch key = false →
        current.allAnnotations.get? key = initial.allAnnotations.get? key) ∧
      (∀ key value, current.allLabels.get? key = some value →
        initial.allLabels.get? key ≠ some value →
          ∃ rule ∈ list.rules, rule.key.isMatch key = true ∧ rule.value.isMatch value = true) ∧
      (∀ key, current.allAnnotations.get? key ≠ initial.allAnnotations.get? key →
        let others := current.allAnnotations.filter fun other _ => other ≠ key
        (resolver.resolve others).2 = (resolver.resolve current.allAnnotations).2 ∧
          ∀ quotas, (ResourceQuota.overrideAll (resolver.resolve others).1 quotas).2 =
            (ResourceQuota.overrideAll (resolver.resolve current.allAnnotations).1 quotas).2) ∧
      (initial.allAnnotations = .empty →
        (resolver.resolve current.allAnnotations).2 = .empty ∧
          ∀ quotas,
            (ResourceQuota.overrideAll (resolver.resolve current.allAnnotations).1 quotas).2 =
              .empty) := by
  have permits := run.permits_metadataAt name
  intro initial current
  refine ⟨fun key => permits.labels, fun key => permits.annotations, ?_, ?_, ?_⟩
  · intro key value isValue differs
    have allowed := permits.labelValues restricted isValue differs
    simpa [AllowList.allows] using allowed
  · intro key differs others
    have accepted {other value : String} (isValue : current.allAnnotations.get? other = some value)
        (dropped : decide (other ≠ key) = false) : resolver.Accepts (other, value) := by
      obtain rfl : other = key := by simpa using dropped
      exact permits.overrides overridable isValue fun same => differs (isValue.trans same.symm)
    exact ⟨OverrideResolver.resolve_filter_report accepted,
      OverrideResolver.overrideAll_filter_report accepted⟩
  · intro noAnnotations
    have accepted (entry : String × String)
        (member : entry ∈ current.allAnnotations.entries) : resolver.Accepts entry := by
      refine permits.overrides overridable
        (current.allAnnotations.get?_eq_some_iff_mem.mpr member) ?_
      change initial.allAnnotations.get? _ ≠ _
      rw [noAnnotations]
      simp
    exact ⟨OverrideResolver.resolve_report_eq_empty accepted,
      OverrideResolver.overrideAll_report_eq_empty accepted⟩

/-! ### A namespace that is created and changed -/

/-- A namespace with a label and the override of a quota. -/
def Namespace.sampleOverride (label limit : String) : Json :=
  .object [("metadata", .object [("labels", .object [("t", .text label)]),
    ("annotations", .object [("quota/compute.cpu", .text limit)])])]

/-- The sample gets another label and another limit after it is created. -/
def Lifetime.sampleOverride : Lifetime :=
  (start ⟨"alice", []⟩ (Namespace.sampleOverride "a" "2")).become
    (Namespace.sampleOverride "b" "4")

theorem Namespace.sampleOverride_reaches :
    Reaches Request.name (Policy.namespaceMetadataGate (.always false) .sample) ∅
      ((AList.singleton "web" (.start ⟨"alice", []⟩ (sampleOverride "a" "2"))).insert "web"
        .sampleOverride) := by
  have created : Commit Request.name (Policy.namespaceMetadataGate (.always false) .sample) ∅
      (AList.singleton "web" (.start ⟨"alice", []⟩ (sampleOverride "a" "2"))) :=
    Commit.create Snapshot.empty.toCluster
      ⟨⟨"alice", []⟩, "web", "web", "Namespace", .create, none, some (sampleOverride "a" "2")⟩
      rfl rfl ⟨by decide, fun _ => rfl, rfl, rfl⟩ rfl
  refine .tail (.single created) ?_
  exact Commit.update Snapshot.empty.toCluster
    ⟨⟨"alice", []⟩, "web", "web", "Namespace", .update, some (sampleOverride "a" "2"),
      some (sampleOverride "b" "4")⟩
    rfl rfl rfl ⟨by decide, fun operation => (by cases operation), rfl, rfl⟩ rfl

/-- Nothing is reported of the overrides of the sample. -/
theorem Namespace.resolve_sampleOverride :
    (OverrideResolver.resolve (.ofPrefix "quota")
        (metadataOf (Served.ofJson? (sampleOverride "b" "4"))).allAnnotations).2 = .empty := by
  have stored : Inventory.metadataAt
      ((AList.singleton "web" (.start ⟨"alice", []⟩ (sampleOverride "a" "2"))).insert "web"
        .sampleOverride) "web" = metadataOf (Served.ofJson? (sampleOverride "b" "4")) := by
    rw [Inventory.metadataAt, AList.lookup_insert]
    rfl
  rw [← stored]
  exact ((metadataAt_of_reaches rfl rfl sampleOverride_reaches "web").2.2.2.2 rfl).1

end History

end Tenancy
