import Mathlib.Data.Multiset.Bind
import Tenancy.Policy.NamespaceMetadata
import Tenancy.Proofs.Change
import Tenancy.Proofs.Cluster.Snapshot
import Tenancy.Proofs.Quota.Annotation
import Tenancy.Proofs.Quota.Limits

/-!
# What is wrong with a change of metadata

Labels and annotations may change in ways of which any may be forbidden: that their keys come,
go or get another value, that a label gets a value, and that an annotation says something about
a quota.  The policy looks at all of them, and what it reports lists everything that is
forbidden once, in a fixed order.  So it allows exactly the changes of which nothing is
forbidden, and what does not change has no part in that.
-/

namespace Tenancy

open OverrideResolver

/-! ## Changes that are allowed -/

/-- An annotation may come: what it says is well formed and sets only limits that are
quantities. -/
def OverrideResolver.Allows (resolver : OverrideResolver) (entry : String × String) : Prop :=
  ∀ said, resolver.Reads entry.1 entry.2 said →
    said.isMalformed = false ∧ ∀ override ∈ said.limits, override.isQuantity = true

namespace MetadataRules

/-- A label may get its value: if values are restricted, some pair of patterns matches the key
and the value. -/
def AllowsLabel (rules : MetadataRules) (label : String × String) : Prop :=
  ∀ list, rules.labelValues = some list →
    ∃ rule ∈ list.rules, rule.key.isMatch label.1 = true ∧ rule.value.isMatch label.2 = true

/-- A change is allowed: globs match the keys of all labels and annotations that changed, labels
may get their new values, and if annotations may be for quotas, the new ones may come. -/
structure Allows (rules : MetadataRules) (old new : Metadata) : Prop where
  labels : ∀ key, old.allLabels.get? key ≠ new.allLabels.get? key →
    rules.labels.isMatch key = true
  annotations : ∀ key, old.allAnnotations.get? key ≠ new.allAnnotations.get? key →
    rules.annotations.isMatch key = true
  labelValues : ∀ label, SortedMap.IsNew old.allLabels new.allLabels label →
    rules.AllowsLabel label
  overrides : ∀ resolver, rules.overrides = some resolver →
    ∀ annotation, SortedMap.IsNew old.allAnnotations new.allAnnotations annotation →
      resolver.Allows annotation

/-- Entries that neither of two changes touches have no part in whether they are allowed. -/
theorem Allows.of_agreeOnChanges {rules : MetadataRules} {old new otherOld otherNew : Metadata}
    (allows : rules.Allows old new)
    (labels : SortedMap.AgreeOnChanges old.allLabels new.allLabels
      otherOld.allLabels otherNew.allLabels)
    (annotations : SortedMap.AgreeOnChanges old.allAnnotations new.allAnnotations
      otherOld.allAnnotations otherNew.allAnnotations) :
    rules.Allows otherOld otherNew := by
  constructor
  · simpa only [labels.differs_iff] using allows.labels
  · simpa only [annotations.differs_iff] using allows.annotations
  · simpa only [labels.isNew_iff] using allows.labelValues
  · simpa only [annotations.isNew_iff] using allows.overrides

end MetadataRules

/-! ## Annotations for quotas -/

namespace OverrideResolver

/-- What is wrong with new annotations: one fault for each that is malformed, by ascending key,
and then one for each limit that is no quantity, quota by quota. -/
def Forbids (resolver : OverrideResolver) (old new : SortedMap String)
    (malformed limits : List OverrideFault) : Prop :=
  ∃ annotations readings quotas,
    Enumerates Prod.fst annotations (SortedMap.IsNew old new) ∧
    List.Forall₂ (fun entry => resolver.Reads entry.1 entry.2) annotations readings ∧
    malformed = readings.flatMap Reading.faults ∧
    Enumerates id quotas (fun quota => readings.flatMap (Reading.limitsFor quota) ≠ []) ∧
    limits = (quotas.flatMap fun quota =>
      readings.flatMap (Reading.limitsFor quota)).flatMap LimitOverride.faults ∧
    limits.Perm ((readings.flatMap Reading.limits).flatMap LimitOverride.faults)

/-- What an annotation holds is for one of the quotas that annotations hold something for. -/
theorem flatMap_limitsFor {said : Reading} {quotas : List String} (nodup : quotas.Nodup)
    (named : ∀ quota, said.limitsFor quota ≠ [] → quota ∈ quotas) :
    quotas.flatMap (fun quota => said.limitsFor quota) = said.limits := by
  cases said with
  | overrides name limits =>
      have only : (quotas.filter (· == name)).flatMap
            (fun quota => (Reading.overrides name limits).limitsFor quota) =
          quotas.flatMap fun quota => (Reading.overrides name limits).limitsFor quota := by
        apply flatMap_filter_of_eq_nil
        intro quota _ other
        exact if_neg fun same => by simp [same] at other
      by_cases noLimits : limits = []
      · subst noLimits
        simp [Reading.limitsFor, Reading.limits]
      · have isNamed : name ∈ quotas := by
          apply named
          rwa [Reading.limitsFor, if_pos rfl]
        rw [← only, List.filter_beq, List.count_eq_one_of_mem nodup isNamed]
        simp [Reading.limitsFor, Reading.limits]
  | unrelated => simp [Reading.limitsFor, Reading.limits]
  | malformed => simp [Reading.limitsFor, Reading.limits]

/-- What annotations hold is what they hold for the quotas, in another order. -/
theorem flatMap_flatMap_limitsFor_perm {readings : List Reading} {quotas : List String}
    (listing : Enumerates id quotas fun quota =>
      readings.flatMap (Reading.limitsFor quota) ≠ []) :
    (quotas.flatMap fun quota => readings.flatMap (Reading.limitsFor quota)).Perm
      (readings.flatMap Reading.limits) := by
  have swapped : (quotas.flatMap fun quota => readings.flatMap (Reading.limitsFor quota)).Perm
      (readings.flatMap fun said => quotas.flatMap fun quota => said.limitsFor quota) := by
    rw [← Multiset.coe_eq_coe]
    simp only [← Multiset.coe_bind]
    exact Multiset.bind_bind _ _
  have each : (readings.flatMap fun said => quotas.flatMap fun quota => said.limitsFor quota) =
      readings.flatMap Reading.limits := by
    apply List.flatMap_congr
    intro said isRead
    apply flatMap_limitsFor listing.nodup
    intro quota notNil
    rw [listing.mem_iff, ne_eq, List.flatMap_eq_nil_iff]
    exact fun allNil => notNil (allNil said isRead)
  rw [← each]
  exact swapped

variable {resolver : OverrideResolver} {old new : SortedMap String}

/-- What is reported in resolving new annotations, and in applying what they hold. -/
theorem forbids_resolve :
    let resolved := resolver.resolve (SortedMap.changedEntries old new)
    resolver.Forbids old new resolved.2.causes
      (resolved.1.values.flatMap fun limits =>
        (LimitOverride.applyAll limits .empty).2.causes) := by
  intro resolved
  let readings := resolver.readings (SortedMap.changedEntries old new)
  have isFor (quota : String) :
      (resolved.1.get? quota).getD [] = readings.flatMap (Reading.limitsFor quota) :=
    resolver.getD_get?_resolve_readings _ quota
  have listing : Enumerates id resolved.1.keys fun quota =>
      readings.flatMap (Reading.limitsFor quota) ≠ [] := by
    refine ⟨resolved.1.pairwise_keys, ?_⟩
    intro quota
    rw [SortedMap.mem_keys_iff]
    exact resolver.get?_resolve_ne_none_iff _ quota
  have applied : (resolved.1.values.flatMap fun limits =>
        (LimitOverride.applyAll limits .empty).2.causes) =
      (resolved.1.keys.flatMap fun quota =>
        readings.flatMap (Reading.limitsFor quota)).flatMap LimitOverride.faults := by
    rw [SortedMap.values_eq _ [], List.flatMap_map, List.flatMap_assoc]
    apply List.flatMap_congr
    intro quota _
    rw [LimitOverride.causes_applyAll, isFor]
  refine ⟨_, readings, resolved.1.keys, SortedMap.enumerates_changedEntries old new,
    resolver.forall₂_reads_readings _, resolver.causes_resolve_readings _, listing, applied, ?_⟩
  rw [applied]
  exact (flatMap_flatMap_limitsFor_perm listing).flatMap_right _

/-- Nothing is wrong with new annotations if each of them may come. -/
theorem Forbids.eq_nil_iff {malformed limits : List OverrideFault}
    (forbids : resolver.Forbids old new malformed limits) :
    malformed = [] ∧ limits = [] ↔
      ∀ annotation, SortedMap.IsNew old new annotation → resolver.Allows annotation := by
  obtain ⟨annotations, readings, quotas, areNew, areRead, rfl, -, -, perm⟩ := forbids
  have noLimits : limits = [] ↔ ∀ said ∈ readings, ∀ override ∈ said.limits,
      override.isQuantity = true := by
    have nilIff : limits = [] ↔
        (readings.flatMap Reading.limits).flatMap LimitOverride.faults = [] :=
      ⟨fun isNil => (isNil ▸ perm).nil_eq.symm, fun isNil => (isNil ▸ perm).eq_nil⟩
    rw [nilIff]
    simp only [List.flatMap_assoc, List.flatMap_eq_nil_iff, LimitOverride.faults_eq_nil_iff]
  have noFault : readings.flatMap Reading.faults = [] ↔
      ∀ said ∈ readings, said.isMalformed = false := by
    simp only [List.flatMap_eq_nil_iff, Reading.faults_eq_nil_iff]
  rw [noFault, noLimits, ← forall₂_and, forall_mem_iff_of_forall₂_reads areRead]
  simp only [areNew.mem_iff]
  rfl

end OverrideResolver

/-! ## All that is wrong -/

/-- What is wrong with a change, by what looks at it. -/
structure MetadataFaults where
  labels : Option ForbiddenChange
  annotations : Option ForbiddenChange
  labelValues : List AllowList.Fault
  malformed : List OverrideFault
  limits : List OverrideFault

/-- All that is wrong, in the order in which it is reported. -/
def MetadataFaults.causes (faults : MetadataFaults) : List MetadataFault :=
  (faults.labels.map .labels).toList ++ (faults.annotations.map .annotations).toList ++
    faults.labelValues.map .labelValue ++ (faults.malformed ++ faults.limits).map .quota

namespace MetadataRules

/-- What rules find wrong with a change: one fault for the keys of labels and one for those of
annotations, one for each new label that may not get its value, by ascending key, and what is
wrong with new annotations if they may be for quotas. -/
structure Forbids (rules : MetadataRules) (old new : Metadata) (faults : MetadataFaults) :
    Prop where
  labels : rules.labels.Forbids old.allLabels new.allLabels faults.labels
  annotations :
    rules.annotations.Forbids old.allAnnotations new.allAnnotations faults.annotations
  labelValues : ∃ labels, Enumerates Prod.fst labels (fun label =>
      SortedMap.IsNew old.allLabels new.allLabels label ∧ ¬rules.AllowsLabel label) ∧
    faults.labelValues = labels.map fun label => .notAllowed label.1 label.2
  overrides : match rules.overrides with
    | some resolver => resolver.Forbids old.allAnnotations new.allAnnotations
        faults.malformed faults.limits
    | none => faults.malformed = [] ∧ faults.limits = []

variable {rules : MetadataRules} {old new : Metadata}

/-- Nothing is wrong with a change exactly if it is allowed. -/
theorem Forbids.causes_eq_nil_iff {faults : MetadataFaults}
    (forbids : rules.Forbids old new faults) :
    faults.causes = [] ↔ rules.Allows old new := by
  obtain ⟨labels, areForbidden, isLabels⟩ := forbids.labelValues
  have labelValues : faults.labelValues = [] ↔
      ∀ label, SortedMap.IsNew old.allLabels new.allLabels label → rules.AllowsLabel label := by
    rw [isLabels, List.map_eq_nil_iff, areForbidden.eq_nil_iff]
    exact forall_congr' fun label => by rw [not_and, not_not]
  have overrides : faults.malformed = [] ∧ faults.limits = [] ↔
      ∀ resolver, rules.overrides = some resolver →
        ∀ annotation, SortedMap.IsNew old.allAnnotations new.allAnnotations annotation →
          resolver.Allows annotation := by
    have forbidden := forbids.overrides
    cases isSet : rules.overrides with
    | none =>
        rw [isSet] at forbidden
        exact iff_of_true forbidden fun resolver isSome => nomatch isSome
    | some resolver =>
        rw [isSet] at forbidden
        rw [OverrideResolver.Forbids.eq_nil_iff forbidden]
        simp
  simp only [MetadataFaults.causes, List.append_eq_nil_iff, Option.toList_eq_nil_iff,
    Option.map_eq_none_iff, List.map_eq_nil_iff, forbids.labels.eq_none_iff,
    forbids.annotations.eq_none_iff, labelValues, overrides]
  constructor
  · rintro ⟨⟨⟨labels, annotations⟩, labelValues⟩, overrides⟩
    exact ⟨labels, annotations, labelValues, overrides⟩
  · rintro ⟨labels, annotations, labelValues, overrides⟩
    exact ⟨⟨⟨labels, annotations⟩, labelValues⟩, overrides⟩

/-- The labels that are reported are those that may not get their new value. -/
theorem exists_labelFaults (rules : MetadataRules) (old new : Metadata) :
    ∃ labels,
      Enumerates Prod.fst labels (fun label =>
        SortedMap.IsNew old.allLabels new.allLabels label ∧ ¬rules.AllowsLabel label) ∧
      (rules.labelFaults old.allLabels new.allLabels).causes =
        (labels.map fun label => .notAllowed label.1 label.2).map .labelValue := by
  cases restricted : rules.labelValues with
  | none =>
      have allAllowed (label : String × String) : rules.AllowsLabel label := by
        intro list isSome
        rw [restricted] at isSome
        cases isSome
      refine ⟨[], ⟨List.Pairwise.nil, ?_⟩, ?_⟩
      · intro label
        simp [allAllowed label]
      · rw [labelFaults, restricted]
        rfl
  | some list =>
      have allowsLabel_iff (label : String × String) :
          (!list.allows label.1 label.2) = true ↔ ¬rules.AllowsLabel label := by
        simp [AllowsLabel, restricted, AllowList.allows]
      have listing := (SortedMap.enumerates_changedEntries old.allLabels new.allLabels).filter
        allowsLabel_iff
      refine ⟨_, listing, ?_⟩
      rw [labelFaults, restricted]
      rfl

/-- The annotations that are reported are looked at if they may be for quotas. -/
theorem exists_overrideFaults (rules : MetadataRules) (old new : Metadata) :
    ∃ malformed limits,
      (match rules.overrides with
        | some resolver => resolver.Forbids old.allAnnotations new.allAnnotations malformed limits
        | none => malformed = [] ∧ limits = []) ∧
      (rules.overrideFaults old.allAnnotations new.allAnnotations).causes =
        (malformed ++ limits).map .quota := by
  cases overridable : rules.overrides with
  | none =>
      refine ⟨[], [], ⟨rfl, rfl⟩, ?_⟩
      rw [overrideFaults, overridable]
      rfl
  | some resolver =>
      refine ⟨_, _, OverrideResolver.forbids_resolve, ?_⟩
      rw [overrideFaults, overridable, ← List.flatMap_map]
      rfl

/-- The report on a change lists what the rules find wrong with it. -/
theorem exists_forbids (rules : MetadataRules) (old new : Metadata) :
    ∃ faults, rules.Forbids old new faults ∧
      (rules.faults old new).causes = faults.causes := by
  obtain ⟨labels, areForbidden, labelCauses⟩ := exists_labelFaults rules old new
  obtain ⟨malformed, limits, overrides, overrideCauses⟩ := exists_overrideFaults rules old new
  refine ⟨⟨_, _, _, malformed, limits⟩, ⟨Globs.forbids_forbiddenChange?,
    Globs.forbids_forbiddenChange?, ⟨labels, areForbidden, rfl⟩, overrides⟩, ?_⟩
  rw [MetadataFaults.causes, ← labelCauses, ← overrideCauses]
  rfl

/-- Nothing is reported of a change exactly if it is allowed. -/
theorem isEmpty_faults_iff : (rules.faults old new).isEmpty = true ↔ rules.Allows old new := by
  obtain ⟨faults, forbids, isCauses⟩ := rules.exists_forbids old new
  rw [Report.isEmpty, List.isEmpty_iff, isCauses, forbids.causes_eq_nil_iff]

end MetadataRules

/-! ## The verdict -/

section Verdict

variable {skipper : Skipper} {rules : MetadataRules} {request : Request}
  (notDelete : request.operation ≠ .delete)
include notDelete

theorem Policy.namespaceMetadata_decide (states : States Namespace) (cluster : Cluster) :
    ((Policy.namespaceMetadata skipper rules).decide request states cluster).result =
      .ok (.ofReport "namespace metadata changes are allowed"
        (rules.faults (metadataOf states.old) (metadataOf states.new))) := by
  simp only [Policy.namespaceMetadata, if_neg notDelete]
  rfl

/-- A request that creates or updates a namespace is allowed exactly if the rules allow the change
of its metadata.  Any other is denied with all that is wrong with the change, each once and in
order.  Labels and annotations that do not change have no part in whether it is allowed. -/
theorem Policy.namespaceMetadata_exact (states : States Namespace) (cluster : Cluster) :
    let decided (request : Request) (states : States Namespace) :=
      ((Policy.namespaceMetadata skipper rules).decide request states cluster).result
    let allowed := Except.ok (Verdict.allow "namespace metadata changes are allowed" [])
    let old := metadataOf states.old
    let new := metadataOf states.new
    (decided request states = allowed ↔ rules.Allows old new) ∧
      (¬rules.Allows old new → ∃ faults, rules.Forbids old new faults ∧
        decided request states = .ok (.deny (Report.message ⟨faults.causes⟩))) ∧
      ∀ (otherRequest : Request) (others : States Namespace),
        otherRequest.operation ≠ .delete →
        SortedMap.AgreeOnChanges old.allLabels new.allLabels
          (metadataOf others.old).allLabels (metadataOf others.new).allLabels →
        SortedMap.AgreeOnChanges old.allAnnotations new.allAnnotations
          (metadataOf others.old).allAnnotations (metadataOf others.new).allAnnotations →
        (decided otherRequest others = allowed ↔ decided request states = allowed) := by
  intro decided allowed old new
  have allowed_iff {request : Request} (notDelete : request.operation ≠ .delete)
      (states : States Namespace) : decided request states = allowed ↔
        rules.Allows (metadataOf states.old) (metadataOf states.new) := by
    dsimp only [decided, allowed]
    rw [namespaceMetadata_decide notDelete, ← MetadataRules.isEmpty_faults_iff, Verdict.ofReport]
    split
    next noFault => exact iff_of_true rfl noFault
    next someFault => exact iff_of_false (fun same => nomatch same) someFault
  refine ⟨allowed_iff notDelete states, ?_, ?_⟩
  · intro notAllowed
    obtain ⟨faults, forbids, isCauses⟩ := rules.exists_forbids old new
    refine ⟨faults, forbids, ?_⟩
    dsimp only [decided]
    rw [← MetadataRules.isEmpty_faults_iff] at notAllowed
    rw [namespaceMetadata_decide notDelete, Verdict.ofReport, if_neg notAllowed, ← isCauses]
  · intro otherRequest others otherNotDelete labels annotations
    rw [allowed_iff otherNotDelete, allowed_iff notDelete]
    constructor
    · exact fun allows => allows.of_agreeOnChanges labels.symm annotations.symm
    · exact fun allows => allows.of_agreeOnChanges labels annotations

end Verdict

/-! ### A change in which everything is wrong -/

/-- Rules that allow one label with the values from a to c, and overrides of quotas. -/
def MetadataRules.sample : MetadataRules where
  labels := .ofPatterns ["t"]
  annotations := .ofPatterns ["quota/*"]
  labelValues := some ⟨[⟨.sequence [.look .startText, .one (.single 't'), .look .endText],
    .sequence [.look .startText, .one (.range 'a'.toNat 'c'.toNat), .look .endText]⟩]⟩
  overrides := some (.ofPrefix "quota")

/-- The metadata of a namespace with some labels and annotations. -/
def Namespace.ofTexts (labels annotations : List (String × String)) : Namespace :=
  ⟨{ Metadata.empty with
    labels := some (SortedMap.ofList labels), annotations := some (SortedMap.ofList annotations) }⟩

/-- A label goes that may not, the other gets a value that it may not get, and of the new
annotations one may not come, one is malformed and one holds no quantity. -/
def States.sampleForbidden : States Namespace :=
  ⟨some (.ofTexts [("u", "x"), ("t", "a")] []),
    some (.ofTexts [("t", "z")] [("note", "x"), ("quota/broken", "1"), ("quota/c.cpu", "many")])⟩

/-- Each of the five is reported once. -/
theorem Policy.namespaceMetadata_sampleForbidden :
    Operation.update ≠ .delete ∧ ∃ faults,
      MetadataRules.sample.Forbids (metadataOf States.sampleForbidden.old)
        (metadataOf States.sampleForbidden.new) faults ∧
      Report.message ⟨faults.causes⟩ =
        "[invalid label change: the following keys are not allowed to be changed: u; " ++
        "allowed keys: [t]; old: \x7b\"t\": \"a\", \"u\": \"x\"\x7d, new: \x7b\"t\": \"z\"\x7d, " ++
        "invalid annotation change: the following keys are not allowed to be changed: note; " ++
        "allowed keys: [quota/*]; old: \x7b\x7d, new: \x7b\"note\": \"x\", " ++
        "\"quota/broken\": \"1\", \"quota/c.cpu\": \"many\"\x7d, t=\"z\" is not allowed, " ++
        "invalid quota override key \"quota/broken\": expected <name>.<resource>, " ++
        "failed to override cpu: invalid quantity \"many\"]" := by
  have notDelete : Operation.update ≠ .delete := by decide
  refine ⟨notDelete, ?_⟩
  obtain ⟨allowed_iff, forbidden, -⟩ := @namespaceMetadata_exact (.always false) .sample
    ⟨⟨"alice", []⟩, "web", "web", "Namespace", .update, none, none⟩ notDelete
    States.sampleForbidden Snapshot.empty.toCluster
  have denied : ¬MetadataRules.sample.Allows (metadataOf States.sampleForbidden.old)
      (metadataOf States.sampleForbidden.new) := by
    intro allows
    cases allowed_iff.mpr allows
  obtain ⟨faults, forbids, decided⟩ := forbidden denied
  refine ⟨faults, forbids, ?_⟩
  dsimp only at decided
  rw [namespaceMetadata_decide notDelete, Verdict.ofReport, if_neg (by decide +kernel)] at decided
  injection decided with isDenied
  injection isDenied with isMessage
  rw [← isMessage]
  decide +kernel

end Tenancy
