import Tenancy.Cluster.Snapshot
import Tenancy.Proofs.Config.Policies
import Tenancy.Proofs.Policy.NodeSelector
import Tenancy.Proofs.Policy.Organization

/-!
# Patches that are made once

Two policies patch new objects.  Each patch changes one map of texts and nothing else, and
the policy that made it allows the request as it is with the object that the patch leads
to.
-/

namespace Tenancy

open Json

variable {skipper : Skipper} {request : Request} {cluster : Cluster} {reason : String}
  {operations : List PatchOperation} {members fields : List (String × Json)}

/-- A patch can be applied to the object of a request and leads to another one, and the
policy allows the request with that one as it is. -/
def Policy.Settles {α : Type} (policy : Policy α) (cluster : Cluster) (request : Request)
    (operations : List PatchOperation) (changed : Json) : Prop :=
  request.object.bind (PatchOperation.applyAll? operations) = some changed ∧
    ∃ reason warnings, (policy.evaluate { request with object := some changed } cluster).decision =
      .allow reason warnings

/-- An object that is carried is read as the new state. -/
theorem States.exists_new_of_ofRequest {α : Type} {decode : Json → Option α} {states : States α}
    {document : Json} (isRead : States.ofRequest decode request = .ok states)
    (carries : request.object = some document) :
    ∃ new, states.new = some new ∧ decode document = some new := by
  have newRead := (States.of_ofRequest_eq_ok isRead).1
  rw [carries, Option.map_some] at newRead
  cases isNew : states.new with
  | none =>
      rw [isNew] at newRead
      cases newRead
  | some new =>
      rw [isNew] at newRead
      exact ⟨new, rfl, Option.some.inj newRead⟩

/-! ## The organization of a new namespace -/

namespace OrganizationRules

variable {rules : OrganizationRules}

/-- A namespace is patched with the organization that its creator prefers, as a member of
it. -/
theorem eq_labelOperations_of_decide {old : Option Namespace} {created : Namespace}
    (operation : request.operation = .create)
    (concluded : (rules.decide request ⟨old, some created⟩ cluster).result =
      .ok (.patch reason operations)) :
    ∃ organization,
      (rules.defaultFor request.caller.username cluster).result = .ok (some organization) ∧
        request.caller.isMemberOf organization = true ∧
        operations = rules.labelOperations created organization := by
  rcases verdict_of_create operation concluded with
    ⟨organization, _, isPatch⟩ | ⟨preferred, found, isPatch⟩
  · unfold decideNamed at isPatch
    split at isPatch <;> cases isPatch
  · cases preferred with
    | none => cases isPatch
    | some organization =>
        unfold decideDefault at isPatch
        dsimp only at isPatch
        split at isPatch
        next isMember =>
          unfold Verdict.patched at isPatch
          split at isPatch
          · cases isPatch
          · cases isPatch
            exact ⟨organization, found, isMember, rfl⟩
        next => cases isPatch

/-- A namespace that is labelled with an organization of its creator is allowed. -/
theorem decide_labelled {old : Option Namespace} {labelled : Namespace} {organization : String}
    (operation : request.operation = .create)
    (named : labelled.metadata.label? rules.label = some organization)
    (isMember : request.caller.isMemberOf organization = true) :
    (rules.decide request ⟨old, some labelled⟩ cluster).result =
      .ok (.allowed ("user is a member of " ++ organization)) := by
  have notUpdate : ¬ request.operation = .update := by simp [operation]
  simp only [decide, if_neg notUpdate, organizationOf, Option.bind_some, named, decideNamed,
    if_pos isMember]
  rfl

/-- The patch of a namespace puts the organization that its creator prefers into its labels,
and then the namespace is allowed. -/
theorem exists_settles (ignores : skipper.IgnoresObject) (operation : request.operation = .create)
    (carries : request.object = some (.object members))
    (hasMetadata : find? members "metadata" = some (.object fields))
    (decided : ((Policy.organization skipper rules).evaluate request cluster).decision =
      .patch reason operations) :
    ∃ organization, rules.Prefers cluster request.caller.username organization ∧
        (Policy.organization skipper rules).Settles cluster request operations
          (.object (withMember "metadata" (.object (withMember "labels" (.object
            (withMember rules.label (.text organization) (membersAt "labels" fields)))
            fields)) members)) := by
  obtain ⟨looked, ⟨old, new⟩, isRead, concluded⟩ :=
    Policy.exists_states_of_decision_eq_patch decided
  obtain ⟨created, rfl, createdRead⟩ := States.exists_new_of_ofRequest isRead carries
  obtain ⟨organization, found, isMember, rfl⟩ := eq_labelOperations_of_decide operation concluded
  refine ⟨organization, defaultFor_eq_ok_some_iff.mp found, ?_, ?_⟩
  · rw [carries]
    exact applyAll?_labelOperations createdRead hasMetadata organization
  · have labelledRead :=
      Namespace.ofJson?_withLabel createdRead hasMetadata rules.label organization
    have allowed := Policy.evaluate_decision_withObject ignores looked isRead labelledRead
      (decide_labelled operation
        (Metadata.label?_insert_self created.metadata (ne_empty_of_defaultFor found)) isMember)
    exact ⟨_, [], allowed⟩

end OrganizationRules

/-! ## The node selector of a new pod -/

namespace NodeSelectors

variable {selectors : NodeSelectors} {selector : SortedMap String} {pod : Pod}

/-- A pod is patched with what its selector lacks, if anything. -/
theorem eq_operations_of_complete (isPatch : complete selector pod = .patch reason operations) :
    (missing selector (pod.spec.bind (·.nodeSelector))).isEmpty = false ∧
      operations = NodeSelectors.operations (missing selector (pod.spec.bind (·.nodeSelector)))
        (pod.spec.bind (·.nodeSelector)) := by
  unfold complete at isPatch
  dsimp only at isPatch
  split at isPatch
  next => cases isPatch
  next incomplete =>
    unfold Verdict.patched at isPatch
    split at isPatch
    · cases isPatch
    · cases isPatch
      exact ⟨Bool.eq_false_of_not_eq_true incomplete, rfl⟩

/-- Nothing is missing in a selector that has all keys. -/
theorem complete_eq_allowed {spec : PodSpec} {own : SortedMap String}
    (isOwn : spec.nodeSelector = some own)
    (covers : ∀ key, selector.get? key ≠ none → own.get? key ≠ none) :
    complete selector { pod with spec := some spec } = .allowed "node selector is complete" := by
  have nothing : missing selector (some own) = .empty := by
    refine SortedMap.ext_get? fun key => ?_
    rw [get?_missing, SortedMap.get?_empty, Option.bind_some]
    split
    next => rfl
    next absent =>
      by_contra isMissing
      exact covers key isMissing (Option.not_isSome_iff_eq_none.mp absent)
  rw [complete, Option.bind_some, isOwn, nothing]
  rfl

/-- The patch of a pod puts the entries of the selector of its namespace that it does not
have into its own, and then the pod is allowed. -/
theorem exists_settles (ignores : skipper.IgnoresObject) (operation : request.operation = .create)
    (carries : request.object = some (.object members))
    (hasSpec : find? members "spec" = some (.object fields))
    (decided : ((Policy.nodeSelector skipper selectors).evaluate request cluster).decision =
      .patch reason operations) :
    ∃ selector entries, selectors.Chooses cluster request.namespaceName selector ∧
        (∀ key, find? entries key =
          (find? (membersAt "nodeSelector" fields) key).or ((selector.get? key).map .text)) ∧
        (Policy.nodeSelector skipper selectors).Settles cluster request operations
          (.object (withMember "spec" (.object
            (withMember "nodeSelector" (.object entries) fields)) members)) := by
  have isCreate : ¬ request.operation ≠ .create := not_not.mpr operation
  obtain ⟨looked, ⟨old, new⟩, isRead, concluded⟩ :=
    Policy.exists_states_of_decision_eq_patch decided
  obtain ⟨pod, rfl, podRead⟩ := States.exists_new_of_ofRequest isRead carries
  simp only [Policy.nodeSelector, if_neg isCreate] at concluded
  obtain ⟨selector, found, concluded⟩ := Lookup.result_bind_eq_ok_iff.mp concluded
  obtain ⟨incomplete, rfl⟩ := eq_operations_of_complete (Except.ok.inj concluded)
  obtain ⟨entries, completed, applied, completedRead, overlaid⟩ :=
    exists_applyAll?_operations podRead hasSpec incomplete
  refine ⟨selector, entries, forNamespace_eq_ok_iff.mp found, overlaid, ?_, ?_⟩
  · rw [carries]
    exact applied
  · obtain ⟨spec, specRead, _⟩ := Pod.ofJson?_spec podRead hasSpec
    have changedRead := Pod.ofJson?_withSpec podRead
      (PodSpec.ofJson?_withSelector specRead completedRead)
    have covers (key : String) (isKey : selector.get? key ≠ none) : completed.get? key ≠ none := by
      have member := find?_of_textMap? completedRead key
      rw [overlaid] at member
      intro absent
      rw [absent, Option.map_none, Option.or_eq_none_iff, Option.map_eq_none_iff] at member
      exact isKey member.2
    have isComplete : complete selector
        { pod with spec := some { spec with nodeSelector := some completed } } =
          .allowed "node selector is complete" :=
      complete_eq_allowed rfl covers
    have settled (changed : Json) : ((Policy.nodeSelector skipper selectors).decide
        { request with object := some changed }
        ⟨old, some { pod with spec := some { spec with nodeSelector := some completed } }⟩
        cluster).result = .ok (.allowed "node selector is complete") := by
      simp only [Policy.nodeSelector, if_neg isCreate]
      exact Lookup.result_bind_eq_ok_iff.mpr ⟨selector, found, congrArg Except.ok isComplete⟩
    exact ⟨_, [], Policy.evaluate_decision_withObject ignores looked isRead changedRead
      (settled _)⟩

end NodeSelectors

/-! ## Both policies -/

theorem Config.ignoresObject_privilegedSkipper (config : Config) :
    config.privilegedSkipper.IgnoresObject :=
  Skipper.ignoresObject_privileged config.privileges

theorem Config.ignoresObject_workloadSkipper (config : Config) :
    config.workloadSkipper.IgnoresObject := by
  refine Skipper.ignoresObject_anyOf fun child member => ?_
  rcases List.mem_cons.mp member with rfl | member
  · exact config.ignoresObject_privilegedSkipper
  · obtain rfl := List.mem_singleton.mp member
    exact Skipper.ignoresObject_outsideOrganizations config.organizationLabel

/-- Where a request to create an object is patched, the patch can be applied, and the request
is allowed with the object that it leads to.  A namespace gets the organization that its
creator prefers under its label, and keeps everything else.  A pod gets the selector that is
meant for its namespace under all keys that it does not have itself, and keeps everything
else. -/
theorem Policy.settles_of_decision_eq_patch (ignores : skipper.IgnoresObject)
    (operation : request.operation = .create) (carries : request.object = some (.object members)) :
    (∀ rules fields reason operations, find? members "metadata" = some (.object fields) →
      ((Policy.organization skipper rules).evaluate request cluster).decision =
          .patch reason operations →
        ∃ organization, rules.Prefers cluster request.caller.username organization ∧
          (Policy.organization skipper rules).Settles cluster request operations
            (.object (withMember "metadata" (.object (withMember "labels" (.object
              (withMember rules.label (.text organization) (membersAt "labels" fields)))
              fields)) members))) ∧
      ∀ selectors fields reason operations, find? members "spec" = some (.object fields) →
        ((Policy.nodeSelector skipper selectors).evaluate request cluster).decision =
            .patch reason operations →
          ∃ selector entries, selectors.Chooses cluster request.namespaceName selector ∧
            (∀ key, find? entries key =
              (find? (membersAt "nodeSelector" fields) key).or
                ((selector.get? key).map .text)) ∧
            (Policy.nodeSelector skipper selectors).Settles cluster request operations
              (.object (withMember "spec" (.object
                (withMember "nodeSelector" (.object entries) fields)) members)) := by
  constructor
  · intro rules fields reason operations hasMetadata decided
    exact OrganizationRules.exists_settles ignores operation carries hasMetadata decided
  · intro selectors fields reason operations hasSpec decided
    exact NodeSelectors.exists_settles ignores operation carries hasSpec decided

/-! ### A namespace without a label and a pod with an entry of its own -/

/-- A cluster with a user who prefers an organization and a namespace of that organization whose
class is known. -/
def Cluster.sampleOrganized : Cluster :=
  Snapshot.toCluster {
    objects := [⟨"Namespace", "", "web", .object [("metadata", .object [("labels", .object
      [("appuio.io/class", .text "gpu"), ("appuio.io/organization", .text "acme")])])]⟩,
      ⟨"User", "", "alice", .object [("metadata", .object [("annotations", .object
        [("appuio.io/default-organization", .text "acme")])])]⟩]
    failing := []
    roleBindings := []
    clusterRoleBindings := [] }

/-- A request to create a namespace that names no organization. -/
def Request.sampleUnnamed : Request where
  caller := ⟨"alice", ["acme"]⟩
  namespaceName := "shop"
  name := "shop"
  kind := "Namespace"
  operation := .create
  oldObject := none
  object := some (.object [("metadata", .object [("labels", .null), ("name", .text "shop")])])

/-- A request to create a pod with an entry in its node selector. -/
def Request.sampleSelecting : Request where
  caller := ⟨"alice", ["acme"]⟩
  namespaceName := "web"
  name := "api"
  kind := "Pod"
  operation := .create
  oldObject := none
  object := some (.object [("spec", .object [("nodeSelector", .object
    [("disk", .text "ssd")])])])

/-- Selectors of which the one for the class of the sample has an entry that the pod has and one
that it has not. -/
def NodeSelectors.sample : NodeSelectors where
  default := .ofList [("node/class", "flex")]
  classLabel := some "appuio.io/class"
  byClass := .ofList [("gpu", .ofList [("disk", "hdd"), ("node/class", "gpu")])]

/-- The namespace gets the organization that its creator prefers.  The pod keeps its entry and
gets the other one of the class of its namespace. -/
theorem NodeSelectors.settles_sampleSelecting :
    (∃ operations,
      (Policy.organization Config.default.privilegedSkipper
        ⟨"appuio.io/organization", "appuio.io/default-organization"⟩).Settles .sampleOrganized
        .sampleUnnamed operations
        (.object (withMember "metadata" (.object (withMember "labels" (.object
          [("appuio.io/organization", .text "acme")])
          [("labels", .null), ("name", .text "shop")]))
          [("metadata", .object [("labels", .null), ("name", .text "shop")])]))) ∧
      ∃ operations entries, find? entries "disk" = some (.text "ssd") ∧
        find? entries "node/class" = some (.text "gpu") ∧
        (Policy.nodeSelector Config.default.workloadSkipper .sample).Settles .sampleOrganized
          .sampleSelecting operations
          (.object (withMember "spec" (.object
            (withMember "nodeSelector" (.object entries)
              [("nodeSelector", .object [("disk", .text "ssd")])]))
            [("spec", .object [("nodeSelector", .object [("disk", .text "ssd")])])])) := by
  constructor
  · have decided : ((Policy.organization Config.default.privilegedSkipper
        ⟨"appuio.io/organization", "appuio.io/default-organization"⟩).evaluate .sampleUnnamed
        .sampleOrganized).decision =
          .patch "defaulted organization to acme"
            [.addAt ["metadata", "labels"] (.object []),
              .addAt ["metadata", "labels", "appuio.io/organization"] (.text "acme")] :=
      rfl
    obtain ⟨organization, preferred, settles⟩ :=
      (Policy.settles_of_decision_eq_patch Config.default.ignoresObject_privilegedSkipper rfl
        rfl).1 _ _ _ _ rfl decided
    obtain rfl : "acme" = organization := Option.some.inj
      (Except.ok.inj (OrganizationRules.defaultFor_eq_ok_some_iff.mpr preferred))
    exact ⟨_, settles⟩
  · have decided : ((Policy.nodeSelector Config.default.workloadSkipper .sample).evaluate
        .sampleSelecting .sampleOrganized).decision =
          .patch "added default node selector"
            [.addAt ["spec", "nodeSelector", "node/class"] (.text "gpu")] :=
      rfl
    obtain ⟨selector, entries, chosen, overlaid, settles⟩ :=
      (Policy.settles_of_decision_eq_patch Config.default.ignoresObject_workloadSkipper rfl
        rfl).2 NodeSelectors.sample _ _ _ rfl decided
    obtain rfl : .ofList [("disk", "hdd"), ("node/class", "gpu")] = selector :=
      Except.ok.inj (NodeSelectors.forNamespace_eq_ok_iff.mpr chosen)
    exact ⟨_, entries, overlaid "disk", overlaid "node/class", settles⟩

end Tenancy
