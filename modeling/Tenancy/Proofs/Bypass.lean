import Tenancy.Bypass
import Tenancy.Proofs.Cluster.Lookup
import Tenancy.Proofs.Cluster.Snapshot

/-!
# Who is let past policies

A subject of a binding means the user of its name, the members of the group of its name, or
the service account that it names.  Whether a caller holds a role is then a matter of the
bindings alone, and a skipper that goes by them answers without a failure once they can be
looked up.
-/

namespace Tenancy

/-! ## Subjects -/

/-- A subject means a caller: it is a user with the caller's name, a group that the caller
is in, or the service account whose name the caller bears. -/
inductive Subject.Means (subject : Subject) (caller : Caller) : Prop
  | user : subject.kind = "User" → subject.name = caller.username → Means subject caller
  | group : subject.kind = "Group" → subject.name ∈ caller.groups → Means subject caller
  | serviceAccount {namespaceName : String} : subject.kind = "ServiceAccount" →
      subject.namespaceName = some namespaceName → ':' ∉ namespaceName.toList →
      caller.username =
        "system:serviceaccount:" ++ namespaceName ++ ":" ++ subject.name →
      Means subject caller

/-- A caller is the service account whose namespace and name the username spells.  A colon
stands between the two, so the namespace has none. -/
theorem Caller.serviceAccount?_eq_some_iff {caller : Caller} {namespaceName name : String} :
    caller.serviceAccount? = some (namespaceName, name) ↔
      ':' ∉ namespaceName.toList ∧
        caller.username = "system:serviceaccount:" ++ namespaceName ++ ":" ++ name := by
  have chars (first middle last : String) :
      (first ++ middle ++ ":" ++ last).toList =
        first.toList ++ (middle.toList ++ ':' :: last.toList) := by
    have colon : ":".toList = [':'] := rfl
    rw [String.toList_append, String.toList_append, String.toList_append, colon,
      List.append_assoc, List.append_assoc, List.singleton_append]
  unfold serviceAccount?
  dsimp only
  constructor
  · intro isAccount
    split at isAccount
    next hasPrefix =>
      obtain ⟨account, spelled⟩ := List.isPrefixOf_iff_prefix.mp hasPrefix
      rw [← spelled, List.drop_left] at isAccount
      split at isAccount
      next hasColon =>
        obtain ⟨front, rest, rfl, unmarked⟩ :=
          List.eq_append_cons_of_mem (List.contains_iff_mem.mp hasColon)
        rw [takeWhile_append_mark unmarked _, dropWhile_append_mark unmarked _] at isAccount
        obtain ⟨isFront, isRest⟩ := Prod.mk.inj (Option.some.inj isAccount)
        have frontChars : namespaceName.toList = front := isFront ▸ String.toList_ofList
        have restChars : name.toList = rest := isRest ▸ String.toList_ofList
        refine ⟨frontChars ▸ unmarked, String.toList_inj.mp ?_⟩
        rw [chars, frontChars, restChars]
        exact spelled.symm
      next => cases isAccount
    next => cases isAccount
  · rintro ⟨unmarked, spelled⟩
    have split : caller.username.toList =
        serviceAccountPrefix ++ (namespaceName.toList ++ ':' :: name.toList) := by
      rw [spelled]
      exact chars _ _ _
    have hasPrefix : serviceAccountPrefix.isPrefixOf caller.username.toList = true := by
      rw [split]
      exact List.isPrefixOf_iff_prefix.mpr (List.prefix_append ..)
    have hasColon : (namespaceName.toList ++ ':' :: name.toList).contains ':' = true :=
      List.contains_iff_mem.mpr (List.mem_append_right _ List.mem_cons_self)
    rw [if_pos hasPrefix, split, List.drop_left, if_pos hasColon,
      takeWhile_append_mark unmarked _, dropWhile_append_mark unmarked _, List.drop_one,
      List.tail_cons, String.ofList_toList, String.ofList_toList]

/-- A subject denotes exactly the callers that it means. -/
theorem Subject.denotes_iff {subject : Subject} {caller : Caller} :
    subject.denotes caller = true ↔ subject.Means caller := by
  unfold denotes
  split
  next isUser =>
    rw [beq_iff_eq]
    constructor
    · exact .user isUser
    · rintro (⟨_, same⟩ | ⟨isGroup, _⟩ | ⟨isAccount, _, _, _⟩)
      · exact same
      · exact absurd (isUser.symm.trans isGroup) (by decide)
      · exact absurd (isUser.symm.trans isAccount) (by decide)
  next notUser =>
    split
    next isGroup =>
      rw [Caller.isMemberOf, List.contains_iff_mem]
      constructor
      · exact .group isGroup
      · rintro (⟨isUser, _⟩ | ⟨_, member⟩ | ⟨isAccount, _, _, _⟩)
        · exact absurd isUser notUser
        · exact member
        · exact absurd (isGroup.symm.trans isAccount) (by decide)
    next notGroup =>
      split
      next isAccount =>
        rw [Option.any_eq_true]
        constructor
        · rintro ⟨⟨namespaceName, name⟩, bears, same⟩
          obtain ⟨unmarked, spelled⟩ := Caller.serviceAccount?_eq_some_iff.mp bears
          obtain ⟨inNamespace, isName⟩ := Bool.and_eq_true_iff.mp same
          exact .serviceAccount isAccount (eq_of_beq inNamespace) unmarked
            (eq_of_beq isName ▸ spelled)
        · rintro (⟨isUser, _⟩ | ⟨isGroup, _⟩ | ⟨_, inNamespace, unmarked, spelled⟩)
          · exact absurd isUser notUser
          · exact absurd isGroup notGroup
          · refine ⟨_, Caller.serviceAccount?_eq_some_iff.mpr ⟨unmarked, spelled⟩, ?_⟩
            rw [inNamespace]
            simp
      next notAccount =>
        constructor
        · intro impossible
          cases impossible
        · rintro (⟨isUser, _⟩ | ⟨isGroup, _⟩ | ⟨isAccount, _, _, _⟩)
          · exact absurd isUser notUser
          · exact absurd isGroup notGroup
          · exact absurd isAccount notAccount

/-- A binding binds exactly the callers that one of its subjects means. -/
theorem RoleBinding.binds_iff {binding : RoleBinding} {caller : Caller} :
    binding.binds caller = true ↔ ∃ subject ∈ binding.subjects, subject.Means caller := by
  simp only [binds, List.any_eq_true, Subject.denotes_iff]

/-! ## Privileges -/

namespace Globs

theorem isMatch_of_isEmpty {globs : Globs} (empty : globs.isEmpty = true) (text : String) :
    globs.isMatch text = false := by
  rw [isMatch, List.isEmpty_iff.mp empty, List.any_nil]

end Globs

/-- A cluster answers which roles are bound: everywhere those of the whole cluster, and in
a namespace, or in all of them, exactly those that are bound there. -/
structure Cluster.Binds (cluster : Cluster) (bindings clusterBindings : List RoleBinding) :
    Prop where
  clusterWide : cluster.clusterRoleBindings = .ok clusterBindings
  within : ∀ namespaceName, ∃ answer, cluster.roleBindings namespaceName = .ok answer ∧
    ∀ binding, binding ∈ answer ↔ binding ∈ bindings ∧
      ∀ name, namespaceName = some name → binding.metadata.namespaceName = some name

/-- A snapshot whose bindings can be read answers with them. -/
theorem Snapshot.binds_toCluster {snapshot : Snapshot} (allRead : snapshot.failing = []) :
    snapshot.toCluster.Binds snapshot.roleBindings snapshot.clusterRoleBindings := by
  have answers {α : Type} (kind : String) (value : α) :
      snapshot.answer kind value = .ok value := by
    rw [answer, allRead]
    rfl
  refine ⟨answers _ _, fun namespaceName => ⟨_, answers _ _, fun binding => ?_⟩⟩
  rw [List.mem_filter]
  refine and_congr_right fun _ => ?_
  cases namespaceName with
  | none => simp
  | some name => simp

/-- A caller is let past policies in a namespace, or in any if it has no name: as a member
of a privileged group, as a privileged user, or by a privileged role that is bound. -/
inductive Privileges.Exempt (privileges : Privileges)
    (bindings clusterBindings : List RoleBinding) (caller : Caller) (namespaceName : String) :
    Prop
  | group {group : String} : group ∈ caller.groups → privileges.groups.isMatch group = true →
      Exempt privileges bindings clusterBindings caller namespaceName
  | user : privileges.users.isMatch caller.username = true →
      Exempt privileges bindings clusterBindings caller namespaceName
  | clusterRole {binding : RoleBinding} {subject : Subject} : binding ∈ clusterBindings →
      subject ∈ binding.subjects → subject.Means caller →
      privileges.clusterRoles.isMatch binding.role = true →
      Exempt privileges bindings clusterBindings caller namespaceName
  | role {binding : RoleBinding} {subject : Subject} : binding ∈ bindings →
      (namespaceName = "" ∨ binding.metadata.namespaceName = some namespaceName) →
      subject ∈ binding.subjects → subject.Means caller →
      privileges.roles.isMatch
        (binding.metadata.namespaceName.getD "" ++ ":" ++ binding.role) = true →
      Exempt privileges bindings clusterBindings caller namespaceName

namespace Privileges

variable {bindings clusterBindings : List RoleBinding} {cluster : Cluster}

/-- A caller holds a privileged role exactly if a binding gives one; where no role is
privileged no binding is looked up. -/
theorem result_holdsClusterRole (binds : cluster.Binds bindings clusterBindings)
    (privileges : Privileges) (caller : Caller) :
    (privileges.holdsClusterRole caller cluster).result =
      .ok (clusterBindings.any fun binding =>
        binding.binds caller && privileges.clusterRoles.isMatch binding.role) := by
  unfold holdsClusterRole
  split
  next empty => simp [Globs.isMatch_of_isEmpty empty]
  next =>
    rw [Lookup.result_bind_eq_ok_iff]
    exact ⟨clusterBindings, Lookup.result_ask_eq_ok_iff.mpr binds.clusterWide, rfl⟩

theorem exists_result_holdsRole (binds : cluster.Binds bindings clusterBindings)
    (privileges : Privileges) (caller : Caller) (namespaceName : String) :
    ∃ holds, (privileges.holdsRole caller namespaceName cluster).result = .ok holds ∧
      (holds = true ↔ ∃ binding ∈ bindings,
        (namespaceName = "" ∨ binding.metadata.namespaceName = some namespaceName) ∧
          binding.binds caller = true ∧
          privileges.roles.isMatch binding.qualifiedRole = true) := by
  unfold holdsRole
  split
  next empty =>
    refine ⟨false, rfl, ?_⟩
    simp [Globs.isMatch_of_isEmpty empty]
  next =>
    obtain ⟨answer, answered, isAnswer⟩ :=
      binds.within (if namespaceName = "" then none else some namespaceName)
    refine ⟨_, Lookup.result_bind_eq_ok_iff.mpr
      ⟨answer, Lookup.result_ask_eq_ok_iff.mpr answered, rfl⟩, ?_⟩
    simp only [List.any_eq_true, isAnswer, Bool.and_eq_true, and_assoc]
    refine exists_congr fun binding => and_congr_right fun _ => and_congr_left fun _ => ?_
    split
    next noName => simp [noName]
    next named => simp [named]

/-- Whether a caller is covered is found out without a failure, and it is so exactly for
those that are exempt. -/
theorem exists_result_covers (binds : cluster.Binds bindings clusterBindings)
    (privileges : Privileges) (caller : Caller) (namespaceName : String) :
    ∃ covered, (privileges.covers caller namespaceName cluster).result = .ok covered ∧
      (covered = true ↔
        privileges.Exempt bindings clusterBindings caller namespaceName) := by
  unfold covers
  split
  next inGroup =>
    obtain ⟨group, member, isMatch⟩ := List.any_eq_true.mp inGroup
    exact ⟨true, rfl, iff_of_true rfl (.group member isMatch)⟩
  next notInGroup =>
    split
    next isUser => exact ⟨true, rfl, iff_of_true rfl (.user isUser)⟩
    next notUser =>
      -- bindings in namespaces are looked up only if none of the whole cluster is enough
      have clusterResult := result_holdsClusterRole binds privileges caller
      cases holds : clusterBindings.any fun binding =>
          binding.binds caller && privileges.clusterRoles.isMatch binding.role with
      | true =>
          rw [holds] at clusterResult
          obtain ⟨binding, member, isBound⟩ := List.any_eq_true.mp holds
          obtain ⟨isBound, isMatch⟩ := Bool.and_eq_true_iff.mp isBound
          obtain ⟨subject, named, means⟩ := RoleBinding.binds_iff.mp isBound
          refine ⟨true, Lookup.result_bind_eq_ok_iff.mpr ⟨true, clusterResult, rfl⟩, ?_⟩
          exact iff_of_true rfl (.clusterRole member named means isMatch)
      | false =>
          rw [holds] at clusterResult
          obtain ⟨holdsRole, roleResult, roleIff⟩ :=
            exists_result_holdsRole binds privileges caller namespaceName
          refine ⟨holdsRole, Lookup.result_bind_eq_ok_iff.mpr
            ⟨false, clusterResult, roleResult⟩, roleIff.trans ?_⟩
          constructor
          · rintro ⟨binding, member, inNamespace, isBound, isMatch⟩
            obtain ⟨subject, named, means⟩ := RoleBinding.binds_iff.mp isBound
            exact .role member inNamespace named means isMatch
          · rintro (⟨member, isMatch⟩ | isUser | ⟨member, named, means, isMatch⟩ |
              ⟨member, inNamespace, named, means, isMatch⟩)
            · exact absurd (List.any_eq_true.mpr ⟨_, member, isMatch⟩) notInGroup
            · exact absurd isUser notUser
            · have isBound := RoleBinding.binds_iff.mpr ⟨_, named, means⟩
              have holdsOne := List.any_eq_false.mp holds _ member
              exact absurd (Bool.and_eq_true_iff.mpr ⟨isBound, isMatch⟩) holdsOne
            · exact ⟨_, member, inNamespace, RoleBinding.binds_iff.mpr ⟨_, named, means⟩,
                isMatch⟩

end Privileges

/-! ## Skippers -/

namespace Skipper

variable {request : Request} {cluster : Cluster}

/-- A choice among skippers skips what its first one skips, and what the others skip if the
first one does not. -/
theorem result_skipAny_cons_eq_true_iff {child : Skipper} {rest : List Skipper} :
    (skipAny request (child :: rest) cluster).result = .ok true ↔
      (child.skip request cluster).result = .ok true ∨
        (child.skip request cluster).result = .ok false ∧
          (skipAny request rest cluster).result = .ok true := by
  rw [skipAny, Lookup.result_bind_eq_ok_iff]
  simp [or_comm]

theorem result_skipAny_singleton_eq_true_iff {child : Skipper} :
    (skipAny request [child] cluster).result = .ok true ↔
      (child.skip request cluster).result = .ok true := by
  rw [result_skipAny_cons_eq_true_iff, skipAny]
  simp

/-- A skipper goes by what a request says apart from its object. -/
def IgnoresObject (skipper : Skipper) : Prop :=
  ∀ (request : Request) (object : Option Json),
    skipper.skip { request with object := object } = skipper.skip request

theorem ignoresObject_privileged (privileges : Privileges) :
    (privileged privileges).IgnoresObject :=
  fun _ _ => rfl

theorem ignoresObject_outsideOrganizations (organizationLabel : String) :
    (outsideOrganizations organizationLabel).IgnoresObject :=
  fun _ _ => rfl

/-- A choice among skippers treats two requests alike if each of them does. -/
theorem skip_anyOf_congr {request other : Request} {children : List Skipper}
    (each : ∀ child ∈ children, child.skip request = child.skip other) :
    (anyOf children).skip request = (anyOf children).skip other := by
  rw [skip, skip]
  induction children with
  | nil => rfl
  | cons child rest ih =>
      obtain ⟨childSame, restSame⟩ := List.forall_mem_cons.mp each
      rw [skipAny, skipAny, childSame, ih restSame]

/-- A choice among skippers ignores objects if each of them does. -/
theorem ignoresObject_anyOf {children : List Skipper}
    (each : ∀ child ∈ children, child.IgnoresObject) : (anyOf children).IgnoresObject :=
  fun request object => skip_anyOf_congr fun child member => each child member request object

end Skipper

/-- The namespace of a request exists, and it has no organization: the label is absent or
empty. -/
def Request.OutsideOrganizations (request : Request) (cluster : Cluster)
    (organizationLabel : String) : Prop :=
  ∃ json, ∃ found : Namespace,
    cluster.get (Served.resource Namespace) none request.namespaceName = .ok (some json) ∧
      Served.ofJson? json = some found ∧
      (found.metadata.allLabels.get? organizationLabel = none ∨
        found.metadata.allLabels.get? organizationLabel = some "")

theorem Skipper.result_outsideOrganizations_eq_true_iff {organizationLabel : String}
    {request : Request} {cluster : Cluster} :
    ((outsideOrganizations organizationLabel).skip request cluster).result = .ok true ↔
      request.OutsideOrganizations cluster organizationLabel := by
  have isNone_iff (found : Namespace) :
      (found.metadata.label? organizationLabel).isNone = true ↔
        found.metadata.allLabels.get? organizationLabel = none ∨
          found.metadata.allLabels.get? organizationLabel = some "" := by
    rw [Metadata.label?]
    cases found.metadata.allLabels.get? organizationLabel with
    | none => simp
    | some value => simp [Option.filter_some]
  rw [outsideOrganizations, skip, Lookup.result_bind_eq_ok_iff]
  simp only [Lookup.result_require_eq_ok_iff, Lookup.result_pure, Except.ok.injEq, isNone_iff]
  constructor
  · rintro ⟨found, ⟨json, answered, isRead⟩, noOrganization⟩
    exact ⟨json, found, answered, isRead, noOrganization⟩
  · rintro ⟨json, found, answered, isRead, noOrganization⟩
    exact ⟨found, ⟨json, answered, isRead⟩, noOrganization⟩

end Tenancy
