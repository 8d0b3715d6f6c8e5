import Tenancy.Policy.NamespaceQuota
import Tenancy.Proofs.Cluster.Census
import Tenancy.Proofs.Cluster.Snapshot
import Tenancy.Proofs.Policy.Organization

/-!
# The number of namespaces of an organization over their history

Each namespace that is created counts against the quota of the organization that the
policy on organizations lets it be in.  An update is not counted, so a namespace that
was in no organization can still join one.  The quota therefore bounds the namespaces
that have been in an organization in all their versions, and the number of all
namespaces of an organization exceeds it by at most those that joined later.
-/

namespace Tenancy

namespace Lifetime

/-- Whether a namespace is in an organization. -/
def isIn (label organization : String) (life : Lifetime) : Bool :=
  Namespace.organizationIn label life.current == some organization

/-- Whether a namespace has been in an organization in all its versions. -/
def alwaysIn (label organization : String) (life : Lifetime) : Bool :=
  life.versions.all fun version => Namespace.organizationIn label version == some organization

/-- Whether a namespace is in an organization that it was not in before. -/
def hasJoined (label organization : String) (life : Lifetime) : Bool :=
  life.isIn label organization && !life.alwaysIn label organization

variable {label organization : String}

theorem isIn_of_alwaysIn {life : Lifetime} (always : life.alwaysIn label organization = true) :
    life.isIn label organization = true :=
  List.all_eq_true.mp always life.current life.current_mem_versions

theorem alwaysIn_start (creator : Caller) (object : Json) :
    (start creator object).alwaysIn label organization =
      (start creator object).isIn label organization := by
  rw [alwaysIn, versions_start, List.all_cons, List.all_nil, Bool.and_true]
  rfl

theorem alwaysIn_of_become {life : Lifetime} {object : Json}
    (always : (life.become object).alwaysIn label organization = true) :
    life.alwaysIn label organization = true := by
  rw [alwaysIn, versions_become, List.all_cons, Bool.and_eq_true] at always
  exact always.2

/-- A namespace that has always been in one organization has joined none. -/
theorem hasJoined_eq_false {life : Lifetime} {owner : String}
    (always : life.alwaysIn label owner = true) :
    life.hasJoined label organization = false := by
  by_cases same : organization = owner
  · subst same
    simp [hasJoined, always]
  · have inOwner : Namespace.organizationIn label life.current = some owner :=
      eq_of_beq (isIn_of_alwaysIn always)
    simp [hasJoined, isIn, inOwner, Ne.symm same]

end Lifetime

/-- The namespaces of an organization are those that were always in it and those that
joined it. -/
theorem Inventory.count_isIn (label organization : String) (inventory : Inventory String) :
    inventory.count (Lifetime.isIn label organization) =
      inventory.count (Lifetime.alwaysIn label organization) +
        inventory.count (Lifetime.hasJoined label organization) := by
  rw [count_eq_count_and_add_count_and_not _ (Lifetime.alwaysIn label organization)]
  congr 2
  funext life
  cases always : life.alwaysIn label organization with
  | false => simp
  | true => simp [Lifetime.isIn_of_alwaysIn always]

namespace NamespaceLimit

/-- The quota of an organization, given the maps of configuration texts by their names.
There is none if an override cannot be read. -/
def quotaOf? (limit : NamespaceLimit) (overrides : String → Option ConfigMap)
    (organization : String) : Option Nat :=
  match limit.overrideNamespace with
  | none => some limit.default
  | some namespaceName =>
      let name := overrideName organization
      match ((overrides name).bind (·.data)).bind (·.get? overrideKey) with
      | some value => (readOverride namespaceName name value).toOption
      | none => some limit.default

/-- A cluster answers with the namespaces that are stored and with the overrides,
unless it fails to answer. -/
structure Reflects (limit : NamespaceLimit) (overrides : String → Option ConfigMap)
    (inventory : Inventory String) (cluster : Cluster) : Prop where
  listed : ∀ {organization values},
    cluster.list (Served.resource Namespace) none
        (some (limit.organizationLabel ++ "=" ++ organization)) = .ok values →
      values.Perm (inventory.currents.filter
        (·.labelIn limit.organizationLabel == some organization))
  overridden : ∀ {namespaceName name found}, limit.overrideNamespace = some namespaceName →
    cluster.get (Served.resource ConfigMap) (some namespaceName) name = .ok found →
      found.map Served.ofJson? = (overrides name).map some

variable {limit : NamespaceLimit} {overrides : String → Option ConfigMap}
  {inventory : Inventory String} {cluster : Cluster}

/-- The limit that is looked up is the quota. -/
theorem Reflects.quotaOf?_eq_some (reflects : limit.Reflects overrides inventory cluster)
    {organization : String} {quota : Nat}
    (found : (limit.forOrganization organization cluster).result = .ok quota) :
    limit.quotaOf? overrides organization = some quota := by
  unfold forOrganization at found
  unfold quotaOf?
  cases overrideNamespace : limit.overrideNamespace with
  | none =>
      rw [overrideNamespace] at found
      exact congrArg some (Except.ok.inj found)
  | some namespaceName =>
      rw [overrideNamespace] at found
      obtain ⟨map, mapFound, result⟩ := Lookup.result_bind_eq_ok_iff.mp found
      obtain ⟨stored, answered, isRead⟩ := Lookup.result_get?_eq_ok_iff.mp mapFound
      have sameMap : map = overrides (overrideName organization) := by
        have reads := isRead.symm.trans (reflects.overridden overrideNamespace answered)
        exact Option.map_injective (Option.some_injective _) reads
      subst sameMap
      dsimp only
      cases override : ((overrides (overrideName organization)).bind (·.data)).bind
          (·.get? overrideKey) with
      | none =>
          rw [override] at result
          exact congrArg some (Except.ok.inj result)
      | some value =>
          rw [override, Lookup.result_ofExcept] at result
          simp only [result]
          rfl

/-- A list of the namespaces with the label of an organization holds all that are in
it. -/
theorem Reflects.count_isIn_le (reflects : limit.Reflects overrides inventory cluster)
    {organization : String} {values : List Json}
    (answered : cluster.list (Served.resource Namespace) none
      (some (limit.organizationLabel ++ "=" ++ organization)) = .ok values) :
    inventory.count (Lifetime.isIn limit.organizationLabel organization) ≤ values.length := by
  rw [(reflects.listed answered).length_eq, ← List.countP_eq_length_filter,
    Inventory.countP_currents]
  refine Inventory.count_mono fun life isIn => ?_
  obtain ⟨found, isRead, labelled⟩ := Option.bind_eq_some_iff.mp (eq_of_beq isIn)
  exact beq_iff_eq.mpr (Namespace.labelIn_eq_some isRead labelled)

/-- The cluster of a snapshot reflects the namespaces of the snapshot. -/
theorem reflects_toCluster {snapshot : Snapshot} (noEquals : '=' ∉ limit.organizationLabel.toList)
    (stored : ((snapshot.objects.filter (·.kind == (Served.resource Namespace).kind)).map
      StoredObject.value).Perm inventory.currents)
    (overridden : ∀ {namespaceName name found}, limit.overrideNamespace = some namespaceName →
      snapshot.toCluster.get (Served.resource ConfigMap) (some namespaceName) name = .ok found →
        found.map Served.ofJson? = (overrides name).map some) :
    limit.Reflects overrides inventory snapshot.toCluster where
  listed answered := by
    rw [Snapshot.list_toCluster_of_selector noEquals answered]
    exact stored.filter _
  overridden := overridden

end NamespaceLimit

/-! ## One request -/

section Step

variable {skipper : Skipper} {limit : NamespaceLimit} {cluster : Cluster}
  {request admitted : Request} {object : Json}

/-- Less than the quota is counted when one more is let in. -/
theorem NamespaceLimit.lt_of_decideCount {organization : String} {count quota : Nat}
    (goesOn : (decideCount organization count quota).decision.carryOut? request =
      some admitted) : count < quota ∧ admitted = request := by
  unfold decideCount at goesOn
  split at goesOn
  next => cases goesOn
  next less => exact ⟨Nat.lt_of_not_le less, Verdict.eq_of_carryOut?_allowed goesOn⟩

/-- A request that is admitted goes on as it came, and if it creates a namespace in an
organization, then fewer namespaces are listed than the quota that is looked up. -/
theorem Policy.namespaceQuota_admits
    (admits : (Policy.namespaceQuota skipper limit).Admits cluster request admitted)
    (carried : admitted.object = some object) :
    request.object = some object ∧
      (request.operation = .create → ∀ organization,
        Namespace.organizationIn limit.organizationLabel object = some organization →
          ∃ values quota,
            cluster.list (Served.resource Namespace) none
              (some (limit.organizationLabel ++ "=" ++ organization)) = .ok values ∧
            (limit.forOrganization organization cluster).result = .ok quota ∧
            values.length < quota) := by
  obtain ⟨states, verdict, isRead, concluded, goesOn⟩ := admits.exists_verdict
  have newEq := eq_bind_of_map_eq (States.of_ofRequest_eq_ok isRead).1
  by_cases operation : request.operation = .create
  · have notOther : ¬ request.operation ≠ .create := not_not_intro operation
    simp only [Policy.namespaceQuota, if_neg notOther] at concluded newEq
    cases named : states.new.bind (·.metadata.label? limit.organizationLabel) with
    | none =>
        rw [named] at concluded
        cases concluded
        rw [Verdict.eq_of_carryOut?_allowed goesOn] at carried
        refine ⟨carried, fun _ organization inOrganization => ?_⟩
        rw [newEq, carried] at named
        exact absurd (inOrganization.symm.trans named) (Option.some_ne_none organization)
    | some organization =>
        rw [named] at concluded
        obtain ⟨siblings, listed, concluded⟩ := Lookup.result_bind_eq_ok_iff.mp concluded
        obtain ⟨quota, given, concluded⟩ := Lookup.result_bind_eq_ok_iff.mp concluded
        cases concluded
        obtain ⟨less, rfl⟩ := NamespaceLimit.lt_of_decideCount goesOn
        refine ⟨carried, fun _ other inOrganization => ?_⟩
        rw [newEq, carried] at named
        obtain rfl : organization = other :=
          Option.some.inj (named.symm.trans inOrganization)
        obtain ⟨values, answered, sameLength⟩ := Lookup.length_of_result_list listed
        exact ⟨values, quota, answered, given, sameLength ▸ less⟩
  · simp only [Policy.namespaceQuota, if_pos operation] at concluded
    cases concluded
    rw [Verdict.eq_of_carryOut?_allowed goesOn] at carried
    exact ⟨carried, fun isCreate => absurd isCreate operation⟩

end Step

/-! ## Histories -/

/-- The requests that both policies on the organization of a namespace admit, one after
the other, in a cluster that reflects what is stored. -/
def Policy.namespaceGate (skipper : Skipper) (limit : NamespaceLimit) (preferenceKey : String)
    (overrides : String → Option ConfigMap) : Gate String :=
  fun inventory cluster request admitted =>
    limit.Reflects overrides inventory cluster ∧
      ∃ middle,
        (Policy.organization skipper ⟨limit.organizationLabel, preferenceKey⟩).Admits
          cluster request middle ∧
        (Policy.namespaceQuota skipper limit).Admits cluster middle admitted

section History

variable {skipper : Skipper} {limit : NamespaceLimit} {preferenceKey : String}
  {overrides : String → Option ConfigMap} {quota : String → Nat}
  {first last : Inventory String}

/-- One request keeps the namespaces that have always been in an organization within
its quota. -/
theorem Commit.count_alwaysIn_le
    (given : ∀ organization, limit.quotaOf? overrides organization = some (quota organization))
    (step : Commit Request.name
      (Policy.namespaceGate skipper limit preferenceKey overrides) first last)
    {organization : String}
    (within : first.count (Lifetime.alwaysIn limit.organizationLabel organization) ≤
      quota organization) :
    last.count (Lifetime.alwaysIn limit.organizationLabel organization) ≤ quota organization := by
  cases step with
  | @create admitted object _ request operation absent admits carried =>
      obtain ⟨reflects, middle, ownerAdmits, quotaAdmits⟩ := admits
      rw [Inventory.count_insert_of_lookup_eq_none absent, Lifetime.alwaysIn_start]
      cases isIn : (Lifetime.start request.caller object).isIn limit.organizationLabel
          organization with
      | false => simpa using within
      | true =>
          have sameOperation : middle.operation = .create := by
            rw [ownerAdmits.operation_eq, operation]
          obtain ⟨values, limitFound, answered, found, less⟩ :=
            (Policy.namespaceQuota_admits quotaAdmits carried).2 sameOperation organization
              (eq_of_beq isIn)
          have isQuota : limitFound = quota organization :=
            Option.some.inj ((reflects.quotaOf?_eq_some found).symm.trans (given organization))
          -- the namespaces that joined are listed too, so those always in it are fewer still
          calc first.count (Lifetime.alwaysIn limit.organizationLabel organization) + 1
              ≤ first.count (Lifetime.isIn limit.organizationLabel organization) + 1 :=
                Nat.succ_le_succ (Inventory.count_mono fun _ => Lifetime.isIn_of_alwaysIn)
            _ ≤ values.length + 1 := Nat.succ_le_succ (reflects.count_isIn_le answered)
            _ ≤ quota organization := isQuota ▸ less
  | update _ _ _ stored =>
      exact (Inventory.count_insert_le_of_lookup_eq_some stored
        Lifetime.alwaysIn_of_become).trans within
  | delete => exact (Inventory.count_erase_le _).trans within

/-- A namespace that has been in one organization in all its versions stays in it. -/
theorem Reaches.exists_organization
    (run : Reaches Request.name
      (Policy.namespaceGate skipper limit preferenceKey overrides) first last)
    (settled : ∀ name life, first.lookup name = some life →
      ∃ organization, life.alwaysIn limit.organizationLabel organization = true) :
    ∀ name life, last.lookup name = some life →
      ∃ organization, life.alwaysIn limit.organizationLabel organization = true := by
  refine run.forall_lifetimes
    (fun life => ∃ organization,
      life.alwaysIn limit.organizationLabel organization = true)
    ?created ?updated settled
  case created =>
    rintro _ _ _ _ object operation ⟨_, middle, ownerAdmits, quotaAdmits⟩ carried
    have carriedOn := (Policy.namespaceQuota_admits quotaAdmits carried).1
    obtain ⟨organization, named, _⟩ :=
      OrganizationRules.exists_organization_of_create operation ownerAdmits carriedOn
    exact ⟨organization, (Lifetime.alwaysIn_start ..).trans (beq_iff_eq.mpr named)⟩
  case updated =>
    rintro _ _ _ _ object life operation carriesStored ⟨_, middle, ownerAdmits, quotaAdmits⟩
      carried ⟨organization, always⟩
    have carriedOn := (Policy.namespaceQuota_admits quotaAdmits carried).1
    have kept := OrganizationRules.organizationIn_of_update operation ownerAdmits carriedOn
      carriesStored (eq_of_beq (Lifetime.isIn_of_alwaysIn always))
    refine ⟨organization, ?_⟩
    rw [Lifetime.alwaysIn, Lifetime.versions_become, List.all_cons]
    exact Bool.and_eq_true_iff.mpr ⟨beq_iff_eq.mpr kept, always⟩

/-- In every history of namespaces, each organization has at most its quota of
namespaces and those that joined it by an update.  None joins if each namespace at the
start of the history is and was in an organization, and then the quota is the bound. -/
theorem Namespace.count_isIn_le_quota
    (given : ∀ organization, limit.quotaOf? overrides organization = some (quota organization))
    (within : ∀ organization,
      first.count (Lifetime.isIn limit.organizationLabel organization) ≤ quota organization)
    (run : Reaches Request.name
      (Policy.namespaceGate skipper limit preferenceKey overrides) first last) :
    (∀ organization,
        last.count (Lifetime.isIn limit.organizationLabel organization) ≤
          quota organization +
            last.count (Lifetime.hasJoined limit.organizationLabel organization)) ∧
      ((∀ name life, first.lookup name = some life →
          ∃ organization, life.alwaysIn limit.organizationLabel organization = true) →
        ∀ organization,
          last.count (Lifetime.isIn limit.organizationLabel organization) ≤
            quota organization) := by
  have alwaysWithin (organization : String) :
      last.count (Lifetime.alwaysIn limit.organizationLabel organization) ≤
        quota organization := by
    induction run with
    | refl =>
        exact (Inventory.count_mono fun _ => Lifetime.isIn_of_alwaysIn).trans (within organization)
    | tail _ step ih => exact step.count_alwaysIn_le given ih
  refine ⟨fun organization => ?_, fun settled organization => ?_⟩
  · rw [Inventory.count_isIn]
    exact Nat.add_le_add_right (alwaysWithin organization) _
  · have noneJoined :
        last.count (Lifetime.hasJoined limit.organizationLabel organization) = 0 := by
      refine Inventory.count_eq_zero fun name life stored => ?_
      obtain ⟨owner, always⟩ := run.exists_organization settled name life stored
      exact Lifetime.hasJoined_eq_false always
    rw [Inventory.count_isIn, noneJoined]
    exact alwaysWithin organization

/-! ### A namespace that joins an organization -/

/-- A namespace of an organization and one of none, stored in a cluster. -/
def Snapshot.sample : Snapshot where
  objects := [
    ⟨"Namespace", "", "second", Namespace.sample []⟩,
    ⟨"Namespace", "", "first", Namespace.sample [("organization", .text "acme")]⟩]
  failing := []
  roleBindings := []
  clusterRoleBindings := []

/-- The namespaces of the sample. -/
def Inventory.sample : Inventory String :=
  (AList.singleton "first" <| .start ⟨"alice", ["acme"]⟩ <|
    Namespace.sample [("organization", .text "acme")]).insert "second" <|
      .start ⟨"bob", []⟩ (Namespace.sample [])

/-- The sample after the namespace of none has joined the organization. -/
def Inventory.sampleJoined : Inventory String :=
  sample.insert "second"
    ((Lifetime.start ⟨"bob", []⟩ (Namespace.sample [])).become
      (Namespace.sample [("organization", .text "acme")]))

theorem Inventory.count_sample_le (organization : String) :
    sample.count (Lifetime.isIn "organization" organization) ≤ 1 := by
  unfold count sample
  rw [AList.entries_insert, List.countP_cons_of_neg Bool.false_ne_true]
  exact List.countP_le_length

theorem Inventory.sample_reaches :
    Reaches Request.name
      (Policy.namespaceGate (.always false) ⟨"organization", 1, none⟩ "default-organization"
        fun _ => none)
      sample sampleJoined := by
  have reflects : NamespaceLimit.Reflects ⟨"organization", 1, none⟩ (fun _ => none) sample
      Snapshot.sample.toCluster :=
    NamespaceLimit.reflects_toCluster (by decide) (.refl _)
      fun overrideNamespace => absurd overrideNamespace (Option.some_ne_none _).symm
  exact .single (Commit.update Snapshot.sample.toCluster
    ⟨⟨"alice", ["acme"]⟩, "second", "second", "Namespace", .update,
      some (Namespace.sample []), some (Namespace.sample [("organization", .text "acme")])⟩
    rfl rfl rfl ⟨reflects, _, ⟨rfl, rfl⟩, ⟨rfl, rfl⟩⟩ rfl)

/-- The sample is within the quota of one namespace, up to the one that joined. -/
theorem Inventory.count_sampleJoined :
    (∀ organization,
        sampleJoined.count (Lifetime.isIn "organization" organization) ≤
          1 + sampleJoined.count (Lifetime.hasJoined "organization" organization)) ∧
      ((∀ name life, sample.lookup name = some life →
          ∃ organization, life.alwaysIn "organization" organization = true) →
        ∀ organization, sampleJoined.count (Lifetime.isIn "organization" organization) ≤ 1) :=
  Namespace.count_isIn_le_quota (fun _ => rfl) count_sample_le sample_reaches

/-- Not every history keeps all organizations within their quotas. -/
theorem Namespace.exists_quota_lt_count_isIn :
    ∃ (skipper : Skipper) (limit : NamespaceLimit) (preferenceKey : String)
      (overrides : String → Option ConfigMap) (quota : String → Nat)
      (first last : Inventory String) (organization : String),
      (∀ organization, limit.quotaOf? overrides organization = some (quota organization)) ∧
        (∀ organization,
          first.count (Lifetime.isIn limit.organizationLabel organization) ≤
            quota organization) ∧
        Reaches Request.name
          (Policy.namespaceGate skipper limit preferenceKey overrides) first last ∧
        quota organization <
          last.count (Lifetime.isIn limit.organizationLabel organization) :=
  ⟨.always false, ⟨"organization", 1, none⟩, "default-organization", fun _ => none, fun _ => 1,
    .sample, .sampleJoined, "acme", fun _ => rfl, Inventory.count_sample_le,
    Inventory.sample_reaches, by decide⟩

end History

end Tenancy
