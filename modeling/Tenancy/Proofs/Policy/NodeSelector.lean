import Tenancy.Policy.NodeSelector
import Tenancy.Proofs.Cluster.Lookup
import Tenancy.Proofs.Cluster.Pod
import Tenancy.Proofs.Json.Patch

/-!
# The node selector of a pod that is completed

The patch puts the entries of a selector that a pod does not have into its own.  A pod
that is completed in this way has an entry for every key of the selector, so there is
nothing left to complete.
-/

namespace Tenancy

open Json

/-! ## The selector of a namespace -/

namespace NodeSelectors

/-- A selector is the one that is meant for the pods of a namespace: the default one if no label
chooses, the one of the class that the label of the namespace names, or the default one where
the label names no class that has one. -/
inductive Chooses (selectors : NodeSelectors) (cluster : Cluster) (namespaceName : String) :
    SortedMap String → Prop
  | unlabelled : selectors.classLabel = none →
      Chooses selectors cluster namespaceName selectors.default
  | ofClass {label className : String} {json : Json} {found : Namespace}
      {selector : SortedMap String} : selectors.classLabel = some label →
        cluster.get (Served.resource Namespace) none namespaceName = .ok (some json) →
        Served.ofJson? json = some found →
        found.metadata.allLabels.get? label = some className →
        selectors.byClass.get? className = some selector →
        Chooses selectors cluster namespaceName selector
  | fallback {label : String} {json : Json} {found : Namespace} :
      selectors.classLabel = some label →
        cluster.get (Served.resource Namespace) none namespaceName = .ok (some json) →
        Served.ofJson? json = some found →
        (∀ className, found.metadata.allLabels.get? label = some className →
          selectors.byClass.get? className = none) →
        Chooses selectors cluster namespaceName selectors.default

/-- The selector that is looked up for a namespace is the one that is meant for it. -/
theorem forNamespace_eq_ok_iff {selectors : NodeSelectors} {cluster : Cluster}
    {namespaceName : String} {selector : SortedMap String} :
    (selectors.forNamespace namespaceName cluster).result = .ok selector ↔
      selectors.Chooses cluster namespaceName selector := by
  constructor
  · intro found
    rw [forNamespace] at found
    cases labelled : selectors.classLabel with
    | none =>
        rw [labelled] at found
        cases found
        exact .unlabelled labelled
    | some label =>
        rw [labelled] at found
        obtain ⟨stored, required, isChosen⟩ := Lookup.result_bind_eq_ok_iff.mp found
        obtain ⟨json, answered, isRead⟩ := Lookup.result_require_eq_ok_iff.mp required
        have isChosen : selectors.chosen label stored = selector := Except.ok.inj isChosen
        rw [chosen] at isChosen
        cases ofClass : (stored.metadata.allLabels.get? label).bind selectors.byClass.get? with
        | some classSelector =>
            rw [ofClass, Option.getD_some] at isChosen
            obtain ⟨className, named, listed⟩ := Option.bind_eq_some_iff.mp ofClass
            exact isChosen ▸ .ofClass labelled answered isRead named listed
        | none =>
            rw [ofClass, Option.getD_none] at isChosen
            exact isChosen ▸
              .fallback labelled answered isRead (Option.bind_eq_none_iff.mp ofClass)
  · intro choice
    cases choice with
    | unlabelled unlabelled =>
        rw [forNamespace, unlabelled]
        rfl
    | ofClass labelled answered isRead named listed =>
        rw [forNamespace, labelled]
        refine Lookup.result_bind_eq_ok_iff.mpr
          ⟨_, Lookup.result_require_eq_ok_iff.mpr ⟨_, answered, isRead⟩, ?_⟩
        simp [chosen, named, listed]
    | fallback labelled answered isRead unlisted =>
        rw [forNamespace, labelled]
        refine Lookup.result_bind_eq_ok_iff.mpr
          ⟨_, Lookup.result_require_eq_ok_iff.mpr ⟨_, answered, isRead⟩, ?_⟩
        simp [chosen, Option.bind_eq_none_iff.mpr unlisted]

/-! ## The patch that completes a selector -/

variable {members fields own : List (String × Json)}

/-- The entries of a node selector with more texts put in. -/
def withTexts (texts : List (String × String)) (own : List (String × Json)) :
    List (String × Json) :=
  texts.foldl (fun own entry => withMember entry.1 (.text entry.2) own) own

/-- Adding texts to the selector of a pod one by one puts all of them in. -/
theorem applyAll?_addEach {texts : List (String × String)} (notEmpty : texts ≠ [])
    (hasSpec : find? members "spec" = some (.object fields))
    (hasSelector : find? fields "nodeSelector" = some (.object own)) :
    PatchOperation.applyAll?
        (texts.map fun (key, value) =>
          PatchOperation.addAt ["spec", "nodeSelector", key] (.text value))
        (.object members) =
      some (.object (withMember "spec" (.object
        (withMember "nodeSelector" (.object (withTexts texts own)) fields)) members)) := by
  -- without a text the members would keep their order, which putting them in may change
  induction texts generalizing members fields own with
  | nil => exact absurd rfl notEmpty
  | cons entry rest ih =>
      obtain ⟨key, value⟩ := entry
      rw [List.map_cons, PatchOperation.applyAll?_cons]
      dsimp only
      rw [PatchOperation.perform?_addAt_triple hasSpec hasSelector, Option.bind_some]
      cases rest with
      | nil => rfl
      | cons next others =>
          rw [ih (List.cons_ne_nil next others) (find?_withMember_self ..)
            (find?_withMember_self ..), withMember_withMember, withMember_withMember]
          rfl

/-- Entries with texts put in are read as a map if they were one. -/
theorem exists_textMap?_withTexts {map : SortedMap String}
    (isRead : textMap? (.object own) = some map) (texts : List (String × String)) :
    ∃ more, textMap? (.object (withTexts texts own)) = some more := by
  induction texts generalizing own map with
  | nil => exact ⟨map, isRead⟩
  | cons entry rest ih => exact ih (textMap?_withMember isRead entry.1 entry.2)

/-- What is missing is what the selector has and the pod has not. -/
theorem get?_missing (selector : SortedMap String) (existing : Option (SortedMap String))
    (key : String) :
    (missing selector existing).get? key =
      if (existing.bind (·.get? key)).isSome then none else selector.get? key := by
  have contains_eq : existing.any (·.contains key) = (existing.bind (·.get? key)).isSome := by
    cases existing <;> rfl
  rw [missing, SortedMap.get?_filter, contains_eq]
  cases (existing.bind (·.get? key)).isSome with
  | true => cases selector.get? key <;> rfl
  | false => cases selector.get? key <;> rfl

/-- A pod whose specification is an object gets a selector whose entries are its own, and
those of the selector under all other keys. -/
theorem exists_applyAll?_operations {pod : Pod} {selector : SortedMap String}
    (isRead : Served.ofJson? (.object members) = some pod)
    (hasSpec : find? members "spec" = some (.object fields))
    (incomplete : (missing selector (pod.spec.bind (·.nodeSelector))).isEmpty = false) :
    ∃ entries completed,
      PatchOperation.applyAll?
          (operations (missing selector (pod.spec.bind (·.nodeSelector)))
            (pod.spec.bind (·.nodeSelector)))
          (.object members) =
        some (.object (withMember "spec" (.object
          (withMember "nodeSelector" (.object entries) fields)) members)) ∧
      textMap? (.object entries) = some completed ∧
      ∀ key, find? entries key =
        (find? (membersAt "nodeSelector" fields) key).or ((selector.get? key).map .text) := by
  obtain ⟨spec, specRead, podSpec⟩ := Pod.ofJson?_spec isRead hasSpec
  have selectorRead := (PodSpec.ofJson?_object_eq_some_iff.mp specRead).2.2
  rw [podSpec, Option.bind_some] at incomplete ⊢
  cases existing : spec.nodeSelector with
  | none =>
      rw [existing] at selectorRead
      have entriesRead : (textMap? (ofTextMap (missing selector none))).isSome := by
        refine mapOf?_isSome_iff.mpr fun member listed => ?_
        obtain ⟨entry, _, rfl⟩ := List.mem_map.mp listed
        rfl
      obtain ⟨completed, isCompleted⟩ := Option.isSome_iff_exists.mp entriesRead
      refine ⟨_, completed, ?_, isCompleted, fun key => ?_⟩
      · rw [operations, PatchOperation.applyAll?_cons,
          PatchOperation.perform?_addAt_pair hasSpec]
        rfl
      · rw [membersAt_eq_nil selectorRead]
        refine (find?_map_text (missing selector none) key).trans ?_
        rw [get?_missing]
        rfl
  | some own =>
      rw [existing] at selectorRead incomplete
      have ownRead := textMap?_membersAt selectorRead
      have hasSelector := find?_eq_membersAt selectorRead rfl
      obtain ⟨completed, isCompleted⟩ :=
        exists_textMap?_withTexts ownRead (missing selector (some own)).entries
      refine ⟨_, completed, ?_, isCompleted, fun key => ?_⟩
      · refine applyAll?_addEach (fun empty => ?_) hasSpec hasSelector
        rw [SortedMap.isEmpty, empty] at incomplete
        cases incomplete
      · rw [withTexts, find?_foldl_withMember, find?_of_textMap? ownRead, get?_missing,
          Option.bind_some, Option.getD_some]
        cases own.get? key <;> cases selector.get? key <;> rfl

end NodeSelectors

end Tenancy
