import Tenancy.Cluster.Snapshot
import Tenancy.Policy.Organization
import Tenancy.Proofs.Cluster.History
import Tenancy.Proofs.Cluster.Metadata
import Tenancy.Proofs.Policy.Basic

/-!
# The organization of a namespace over its history

A namespace is created in an organization of its creator: the one that its label
names, or else the one that the creator prefers, which the policy then writes into
the label.  No later request takes the namespace out of it.
-/

namespace Tenancy

open Json

/-- The organization that the label in the JSON form of a namespace names. -/
def Namespace.organizationIn (label : String) (json : Json) : Option String :=
  (Served.ofJson? json : Option Namespace).bind (·.metadata.label? label)

theorem Namespace.ne_empty_of_organizationIn {label organization : String} {json : Json}
    (named : organizationIn label json = some organization) : organization ≠ "" := by
  obtain ⟨found, _, labelled⟩ := Option.bind_eq_some_iff.mp named
  exact of_decide_eq_true (Option.filter_eq_some_iff.mp labelled).2

namespace OrganizationRules

variable {rules : OrganizationRules}

/-- The annotation of a stored user names the organization that the user prefers. -/
def Prefers (rules : OrganizationRules) (cluster : Cluster) (username organization : String) :
    Prop :=
  ∃ user metadata annotations, cluster.get Resource.user none username = .ok (some user) ∧
    user.member? "metadata" = some metadata ∧ metadata.member? "annotations" = some annotations ∧
    annotations.member? rules.defaultAnnotation = some (.text organization) ∧ organization ≠ ""

/-- An organization is preferred by a stored user if an annotation names it. -/
theorem preferredBy_eq_some_iff {user : Json} {organization : String} :
    rules.preferredBy user = some organization ↔
      ∃ metadata annotations, user.member? "metadata" = some metadata ∧
        metadata.member? "annotations" = some annotations ∧
        annotations.member? rules.defaultAnnotation = some (.text organization) ∧
        organization ≠ "" := by
  simp only [preferredBy, Option.filter_eq_some_iff, Option.bind_eq_some_iff,
    decide_eq_true_eq]
  constructor
  · rintro ⟨⟨value, ⟨annotations, ⟨metadata, found, listed⟩, named⟩, isText⟩, notEmpty⟩
    cases value with
    | text value =>
        obtain rfl := Option.some.inj isText
        exact ⟨metadata, annotations, found, listed, named, notEmpty⟩
    | _ => cases isText
  · rintro ⟨metadata, annotations, found, listed, named, notEmpty⟩
    exact ⟨⟨_, ⟨annotations, ⟨metadata, found, listed⟩, named⟩, rfl⟩, notEmpty⟩

/-- The organization that is looked up for a user is the one that the user prefers. -/
theorem defaultFor_eq_ok_some_iff {username : String} {cluster : Cluster}
    {organization : String} :
    (rules.defaultFor username cluster).result = .ok (some organization) ↔
      rules.Prefers cluster username organization := by
  rw [defaultFor, Lookup.result_bind_eq_ok_iff]
  constructor
  · rintro ⟨stored, answered, isAnswer⟩
    rw [Lookup.getRaw, Lookup.result_ask_eq_ok_iff] at answered
    obtain ⟨user, rfl, preferred⟩ := Option.bind_eq_some_iff.mp (Except.ok.inj isAnswer)
    obtain ⟨metadata, annotations, isNamed⟩ := preferredBy_eq_some_iff.mp preferred
    exact ⟨user, metadata, annotations, answered, isNamed⟩
  · rintro ⟨user, metadata, annotations, answered, isNamed⟩
    refine ⟨some user, ?_, ?_⟩
    · rw [Lookup.getRaw, Lookup.result_ask_eq_ok_iff]
      exact answered
    · exact congrArg Except.ok (preferredBy_eq_some_iff.mpr ⟨metadata, annotations, isNamed⟩)

theorem ne_empty_of_defaultFor {username : String} {cluster : Cluster} {organization : String}
    (found : (rules.defaultFor username cluster).result = .ok (some organization)) :
    organization ≠ "" := by
  obtain ⟨_, _, _, _, _, _, _, notEmpty⟩ := defaultFor_eq_ok_some_iff.mp found
  exact notEmpty

/-! ## The patch that labels a namespace -/

section Patch

variable {created : Namespace} {members fields : List (String × Json)}

/-- The patch labels a namespace whose metadata are an object, whether or not it has
labels. -/
theorem applyAll?_labelOperations (isRead : Served.ofJson? (.object members) = some created)
    (hasMetadata : find? members "metadata" = some (.object fields)) (organization : String) :
    PatchOperation.applyAll? (rules.labelOperations created organization) (.object members) =
      some (.object (withMember "metadata"
        (.object (Metadata.withLabel rules.label organization fields)) members)) := by
  have metadataRead := Namespace.ofJson?_metadata isRead hasMetadata
  unfold labelOperations
  split
  next unlabelled =>
    have noMembers := Metadata.labelMembers_eq_nil metadataRead
      (Option.isNone_iff_eq_none.mp unlabelled)
    rw [PatchOperation.applyAll?_cons, PatchOperation.perform?_addAt_pair hasMetadata,
      Option.bind_some, PatchOperation.applyAll?_cons,
      PatchOperation.perform?_addAt_triple (find?_withMember_self ..) (find?_withMember_self ..),
      Option.bind_some, PatchOperation.applyAll?_nil, Metadata.withLabel, noMembers,
      withMember_withMember, withMember_withMember]
  next labelled =>
    have hasLabels := Metadata.find?_labels_eq_labelMembers metadataRead
      (Option.isSome_iff_ne_none.mpr (by simpa using labelled))
    rw [PatchOperation.applyAll?_cons, PatchOperation.perform?_addAt_triple hasMetadata hasLabels]
    rfl

/-- Something is added within the metadata of a namespace only if they are an
object. -/
theorem exists_metadata_of_perform?_addAt (isRead : Served.ofJson? (.object members) = some created)
    {token : String} {rest : List String} {value changed : Json}
    (applied : (PatchOperation.addAt ("metadata" :: token :: rest) value).perform?
      (.object members) = some changed) :
    ∃ fields, find? members "metadata" = some (.object fields) := by
  rw [PatchOperation.perform?_addAt] at applied
  cases found : find? members "metadata" with
  | none => simp [putAt?, child?, found] at applied
  | some metadata =>
      rw [putAt?_cons_cons _ _ _ _ _ found] at applied
      cases metadata with
      | object fields => exact ⟨fields, rfl⟩
      | null =>
          rw [putAt?_addChild?_null] at applied
          cases applied
      | _ =>
          simp [Served.ofJson?, Resource.open?, object?, Json.optional, found,
            Metadata.ofJson?] at isRead

/-- The patch labels a namespace, or it cannot be applied. -/
theorem organizationIn_of_applyAll?_labelOperations {object labelled : Json}
    (isRead : Served.ofJson? object = some created) {organization : String}
    (nonempty : organization ≠ "")
    (applied : PatchOperation.applyAll? (rules.labelOperations created organization) object =
      some labelled) :
    Namespace.organizationIn rules.label labelled = some organization := by
  cases object with
  | object members =>
      have hasMetadata : ∃ fields, find? members "metadata" = some (.object fields) := by
        have opened := applied
        unfold labelOperations at opened
        split at opened
        all_goals
          rw [PatchOperation.applyAll?_cons] at opened
          obtain ⟨_, applied, _⟩ := Option.bind_eq_some_iff.mp opened
          exact exists_metadata_of_perform?_addAt isRead applied
      obtain ⟨fields, found⟩ := hasMetadata
      rw [applyAll?_labelOperations isRead found] at applied
      rw [← Option.some.inj applied, Namespace.organizationIn,
        Namespace.ofJson?_withLabel isRead found, Option.bind_some]
      exact Metadata.label?_insert_self created.metadata nonempty
  | _ => simp [Served.ofJson?, Resource.open?, object?] at isRead

end Patch

/-! ## One request -/

section Step

variable {skipper : Skipper} {cluster : Cluster} {request admitted : Request} {object : Json}

/-- A request that carries an object on came with one, and the policy decided on it as
it is read. -/
theorem exists_verdict_of_admits
    (admits : (Policy.organization skipper rules).Admits cluster request admitted)
    (carried : admitted.object = some object) :
    ∃ new created verdict, request.object = some new ∧ Served.ofJson? new = some created ∧
      (rules.decide request ⟨request.oldObject.bind Served.ofJson?, some created⟩ cluster).result =
        .ok verdict ∧
      verdict.decision.carryOut? request = some admitted := by
  obtain ⟨states, verdict, isRead, concluded, goesOn⟩ := admits.exists_verdict
  obtain ⟨newRead, oldRead⟩ := States.of_ofRequest_eq_ok isRead
  obtain ⟨old, new⟩ := states
  cases new with
  | none =>
      cases concluded
      rw [Verdict.eq_of_carryOut?_allowed goesOn] at carried
      rw [carried] at newRead
      cases newRead
  | some created =>
      obtain ⟨new, stored, readNew⟩ := Option.map_eq_some_iff.mp newRead
      obtain rfl : old = request.oldObject.bind Served.ofJson? := eq_bind_of_map_eq oldRead
      exact ⟨new, created, verdict, stored, readNew, concluded, goesOn⟩

/-- The caller who names an organization is a member of it. -/
theorem isMemberOf_of_decideNamed {organization : String}
    (goesOn : (decideNamed request.caller organization).decision.carryOut? request =
      some admitted) :
    request.caller.isMemberOf organization = true ∧ admitted = request := by
  unfold decideNamed at goesOn
  split at goesOn
  next isMember => exact ⟨isMember, Verdict.eq_of_carryOut?_allowed goesOn⟩
  next => cases goesOn

/-- The caller for whom an organization is filled in is a member of it, and the object
goes on with its label. -/
theorem exists_labelled_of_decideDefault {new : Json} {created : Namespace}
    (stored : request.object = some new) (isRead : Served.ofJson? new = some created)
    {organization : String} (nonempty : organization ≠ "")
    (goesOn : (rules.decideDefault request.caller created (some organization)).decision.carryOut?
      request = some admitted) :
    request.caller.isMemberOf organization = true ∧
      ∃ labelled, admitted.object = some labelled ∧
        Namespace.organizationIn rules.label labelled = some organization := by
  have hasOperations : (rules.labelOperations created organization).isEmpty = false := by
    unfold labelOperations
    split <;> rfl
  simp only [decideDefault, Verdict.patched, hasOperations] at goesOn
  split at goesOn
  next isMember =>
    obtain ⟨labelled, applied, rfl⟩ := Option.map_eq_some_iff.mp goesOn
    rw [stored, Option.bind_some] at applied
    exact ⟨isMember, labelled, rfl,
      organizationIn_of_applyAll?_labelOperations isRead nonempty applied⟩
  next => cases goesOn

/-- The verdict on a new namespace is about the organization that it names, or else about
the one that its creator prefers. -/
theorem verdict_of_create (operation : request.operation = .create) {old : Option Namespace}
    {created : Namespace} {verdict : Verdict}
    (concluded : (rules.decide request ⟨old, some created⟩ cluster).result = .ok verdict) :
    (∃ organization, rules.organizationOf (some created) = some organization ∧
        verdict = decideNamed request.caller organization) ∨
      ∃ preferred, (rules.defaultFor request.caller.username cluster).result = .ok preferred ∧
        verdict = rules.decideDefault request.caller created preferred := by
  have notUpdate : ¬ request.operation = .update := by simp [operation]
  simp only [decide, if_neg notUpdate, if_pos operation] at concluded
  cases named : rules.organizationOf (some created) with
  | some organization =>
      rw [named] at concluded
      exact .inl ⟨organization, rfl, (Except.ok.inj concluded).symm⟩
  | none =>
      rw [named] at concluded
      obtain ⟨preferred, found, concluded⟩ := Lookup.result_bind_eq_ok_iff.mp concluded
      exact .inr ⟨preferred, found, (Except.ok.inj concluded).symm⟩

/-- A namespace is created in an organization of its creator. -/
theorem exists_organization_of_create (operation : request.operation = .create)
    (admits : (Policy.organization skipper rules).Admits cluster request admitted)
    (carried : admitted.object = some object) :
    ∃ organization, Namespace.organizationIn rules.label object = some organization ∧
      request.caller.isMemberOf organization = true := by
  obtain ⟨new, created, verdict, stored, isRead, concluded, goesOn⟩ :=
    exists_verdict_of_admits admits carried
  rcases verdict_of_create operation concluded with
    ⟨organization, named, rfl⟩ | ⟨preferred, found, rfl⟩
  · obtain ⟨isMember, rfl⟩ := isMemberOf_of_decideNamed goesOn
    rw [stored] at carried
    refine ⟨organization, ?_, isMember⟩
    rw [← Option.some.inj carried, Namespace.organizationIn, isRead]
    exact named
  · cases preferred with
    | none => cases goesOn
    | some organization =>
        obtain ⟨isMember, labelled, goesOnWith, isLabelled⟩ :=
          exists_labelled_of_decideDefault stored isRead (ne_empty_of_defaultFor found) goesOn
        rw [goesOnWith] at carried
        exact ⟨organization, Option.some.inj carried ▸ isLabelled, isMember⟩

/-- An update keeps the organization of a namespace that has one. -/
theorem organizationIn_of_update (operation : request.operation = .update)
    (admits : (Policy.organization skipper rules).Admits cluster request admitted)
    (carried : admitted.object = some object) {old : Json} (stored : request.oldObject = some old)
    {organization : String}
    (owned : Namespace.organizationIn rules.label old = some organization) :
    Namespace.organizationIn rules.label object = some organization := by
  obtain ⟨new, created, verdict, carriesNew, isRead, concluded, goesOn⟩ :=
    exists_verdict_of_admits admits carried
  have owner :
      rules.organizationOf (request.oldObject.bind Served.ofJson?) = some organization := by
    rw [stored]
    exact owned
  simp only [decide, if_pos operation, owner] at concluded
  cases concluded
  unfold decideKept at goesOn
  split at goesOn
  next kept =>
    rw [Verdict.eq_of_carryOut?_allowed goesOn, carriesNew] at carried
    rw [← Option.some.inj carried, Namespace.organizationIn, isRead]
    exact kept
  next => cases goesOn

end Step

end OrganizationRules

/-! ## Histories -/

section History

variable {skipper : Skipper} {rules : OrganizationRules}

/-- In every history of namespaces, each has been in one organization in all its
versions, and the caller who created it was a member of that organization. -/
theorem Namespace.exists_organization_of_reaches {state : Inventory String}
    (run : Reaches Request.name (fun _ => (Policy.organization skipper rules).Admits) ∅ state)
    {name : String} {life : Lifetime} (found : state.lookup name = some life) :
    ∃ organization, organization ≠ "" ∧
      (∀ version ∈ life.versions, organizationIn rules.label version = some organization) ∧
      life.creator.isMemberOf organization = true := by
  refine run.forall_lifetimes
    (fun life => ∃ organization, organization ≠ "" ∧
      (∀ version ∈ life.versions, organizationIn rules.label version = some organization) ∧
      life.creator.isMemberOf organization = true)
    ?created ?updated (by simp) name life found
  case created =>
    intro _ _ _ _ object operation admitted carried
    obtain ⟨organization, named, isMember⟩ :=
      OrganizationRules.exists_organization_of_create operation admitted carried
    exact ⟨organization, ne_empty_of_organizationIn named, by simpa using named, isMember⟩
  case updated =>
    rintro _ _ _ _ object life operation carriesStored admitted carried
      ⟨organization, nonempty, always, isMember⟩
    have kept : organizationIn rules.label object = some organization :=
      OrganizationRules.organizationIn_of_update operation admitted carried carriesStored
        (always _ life.current_mem_versions)
    exact ⟨organization, nonempty, by simpa using ⟨kept, always⟩, isMember⟩

/-! ### A namespace whose organization is filled in -/

/-- A cluster with a user who prefers an organization. -/
def Cluster.samplePreference : Cluster :=
  Snapshot.toCluster {
    objects := [⟨"User", "", "alice", .object [
      ("metadata", .object [("annotations", .object [("default-organization", .text "acme")])])]⟩]
    failing := []
    roleBindings := []
    clusterRoleBindings := [] }

/-- A namespace with labels. -/
def Namespace.sample (labels : List (String × Json)) : Json :=
  .object [("metadata", .object [("labels", .object labels)])]

theorem Namespace.sample_reaches :
    Reaches Request.name
      (fun _ =>
        (Policy.organization (.always false) ⟨"organization", "default-organization"⟩).Admits)
      ∅ (AList.singleton "web"
        (.start ⟨"alice", ["acme"]⟩ (sample [("organization", .text "acme")]))) :=
  .single (Commit.create .samplePreference
    ⟨⟨"alice", ["acme"]⟩, "web", "web", "Namespace", .create, none,
      some (.object [("metadata", .object [])])⟩ rfl rfl ⟨rfl, rfl⟩ rfl)

/-- The sample is in the organization that its creator prefers. -/
theorem Namespace.organization_sample :
    ∃ organization, organization ≠ "" ∧
      (∀ version ∈ [sample [("organization", .text "acme")]],
        organizationIn "organization" version = some organization) ∧
      (⟨"alice", ["acme"]⟩ : Caller).isMemberOf organization = true :=
  exists_organization_of_reaches sample_reaches (AList.lookup_insert (a := "web") ∅)

end History

end Tenancy
