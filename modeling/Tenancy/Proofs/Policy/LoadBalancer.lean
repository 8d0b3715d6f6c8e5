import Tenancy.Policy.LoadBalancer
import Tenancy.Proofs.Cluster.History
import Tenancy.Proofs.Cluster.Snapshot
import Tenancy.Proofs.Policy.Basic

/-!
# Protected annotations over the history of a service

The policy compares two states of a service whenever one of them is a load balancer.
So a load balancer keeps its protected annotations, and a service that becomes one
brings along those that it had before.  Over a whole history this makes the
protected annotations of a load balancer those of its newest version of another
type.
-/

namespace Tenancy

namespace Service

/-- Whether the JSON form of an object is that of a load balancer. -/
def isLoadBalancerIn (json : Json) : Bool :=
  (Served.ofJson? json : Option Service).any isLoadBalancer

/-- The value of an annotation in the JSON form of a service. -/
def annotationIn (key : String) (json : Json) : Option String :=
  (annotationsOf (Served.ofJson? json)).get? key

end Service

/-- The newest version of a service that is not a load balancer. -/
def Lifetime.lastOther? (life : Lifetime) : Option Json :=
  life.versions.find? fun version => !Service.isLoadBalancerIn version

/-- Where an object is stored that lives in a namespace. -/
def Request.placeInNamespace (request : Request) : String × String :=
  (request.namespaceName, request.name)

/-- The requests that the policy admits.  One that creates a service carries no
earlier state of it. -/
def Policy.loadBalancerGate (skipper : Skipper) (protectedKeys : Globs) :
    Gate (String × String) := fun _ cluster request admitted =>
  (request.operation = .create → request.oldObject = none) ∧
    (Policy.loadBalancer skipper protectedKeys).Admits cluster request admitted

/-! ## One request -/

section Step

variable {skipper : Skipper} {protectedKeys : Globs} {states : States Service}

/-- Without a report, the look-ups of a protected key agree in both states. -/
theorem Globs.get?_eq_of_isEmpty_protectedChanges
    (noChange : (protectedKeys.protectedChanges states).isEmpty = true) {key : String}
    (isProtected : protectedKeys.isMatch key = true) :
    (Service.annotationsOf states.new).get? key = (Service.annotationsOf states.old).get? key := by
  refine SortedMap.get?_eq_of_filter_changedKeys_eq_nil ?_ isProtected
  exact List.map_eq_nil_iff.mp (List.isEmpty_iff.mp noChange)

/-- A request that is admitted goes on as it came, and if the service is a load
balancer before or after it, then its protected annotations stay as they are. -/
theorem Policy.loadBalancer_admits {cluster : Cluster} {request admitted : Request}
    (notDelete : request.operation ≠ .delete)
    (admits : (Policy.loadBalancer skipper protectedKeys).Admits cluster request admitted)
    {object : Json} (carried : admitted.object = some object) :
    request.object = some object ∧
      (Service.isLoadBalancerIn object = true ∨
          request.oldObject.any Service.isLoadBalancerIn = true →
        ∀ key, protectedKeys.isMatch key = true →
          Service.annotationIn key object =
            request.oldObject.bind (Service.annotationIn key)) := by
  obtain ⟨states, verdict, isRead, concluded, goesOn⟩ := admits.exists_verdict
  obtain ⟨newRead, oldRead⟩ := States.of_ofRequest_eq_ok isRead
  have newEq := eq_bind_of_map_eq newRead
  have oldEq := eq_bind_of_map_eq oldRead
  simp only [Policy.loadBalancer, if_neg notDelete] at concluded newEq oldEq
  have balancesAny (value : Option Json) :
      (value.bind Served.ofJson?).any Service.isLoadBalancer =
        value.any Service.isLoadBalancerIn := by
    cases value <;> rfl
  split at concluded
  next noBalancer =>
    cases concluded
    cases goesOn
    refine ⟨carried, fun balances => ?_⟩
    rw [newEq, oldEq, balancesAny, balancesAny, carried] at noBalancer
    rcases balances with balances | balances <;> simp [balances] at noBalancer
  next =>
    cases concluded
    unfold Verdict.ofReport at goesOn
    split at goesOn
    next noChange =>
      cases goesOn
      refine ⟨carried, fun _ key isProtected => ?_⟩
      have sameLookups := Globs.get?_eq_of_isEmpty_protectedChanges noChange isProtected
      rw [newEq, oldEq, carried] at sameLookups
      cases stored : request.oldObject with
      | none =>
          rw [stored] at sameLookups
          exact sameLookups
      | some old =>
          rw [stored] at sameLookups
          exact sameLookups
    next => cases goesOn

end Step

/-! ## Histories -/

section History

variable {skipper : Skipper} {protectedKeys : Globs}

/-- In every history of services, a load balancer has exactly the protected
annotations that its newest version of another type had, and none if it has been a
load balancer all along. -/
theorem Service.annotationIn_eq_lastOther? {state : Inventory (String × String)}
    (run : Reaches Request.placeInNamespace (Policy.loadBalancerGate skipper protectedKeys)
      ∅ state)
    {place : String × String} {life : Lifetime} (found : state.lookup place = some life)
    (balances : isLoadBalancerIn life.current = true) {key : String}
    (isProtected : protectedKeys.isMatch key = true) :
    annotationIn key life.current = life.lastOther?.bind (annotationIn key) := by
  refine run.forall_lifetimes
    (fun life => isLoadBalancerIn life.current = true →
      annotationIn key life.current = life.lastOther?.bind (annotationIn key))
    ?created ?updated (by simp) place life found balances
  case created =>
    intro _ _ request _ object operation admitted carried balances
    change isLoadBalancerIn object = true at balances
    obtain ⟨_, kept⟩ := Policy.loadBalancer_admits (by rw [operation]; decide) admitted.2 carried
    change annotationIn key object = _
    rw [kept (.inl balances) key isProtected, admitted.1 operation]
    simp [Lifetime.lastOther?, balances]
  case updated =>
    intro _ _ request _ object life operation carriesStored admitted carried ih balances
    change isLoadBalancerIn object = true at balances
    obtain ⟨_, kept⟩ := Policy.loadBalancer_admits (by rw [operation]; decide) admitted.2 carried
    change annotationIn key object = _
    rw [kept (.inl balances) key isProtected, carriesStored, Option.bind_some,
      Lifetime.lastOther?, Lifetime.versions_become, List.find?_cons_of_neg (by simp [balances])]
    -- the version before is the newest of another type unless it is a load balancer itself
    cases before : isLoadBalancerIn life.current with
    | true => exact ih before
    | false => simp [Lifetime.versions, before]

/-! ### A service that becomes a load balancer -/

/-- A service of a type that carries a protected annotation. -/
def Service.sample (serviceType : String) : Json :=
  .object [
    ("metadata", .object [("annotations", .object [("lb.appuio.io/ip", .text "1.2.3.4")])]),
    ("spec", .object [("type", .text serviceType)])]

/-- The globs that protect the annotation of the sample. -/
def Globs.sample : Globs := .ofPatterns ["lb.appuio.io/*"]

/-- The sample as a service of another type that becomes a load balancer. -/
def Lifetime.sample : Lifetime :=
  (start ⟨"alice", []⟩ (Service.sample "ClusterIP")).become (Service.sample "LoadBalancer")

theorem Service.sample_reaches :
    Reaches Request.placeInNamespace (Policy.loadBalancerGate (.always false) .sample) ∅
      ((AList.singleton ("ns", "web")
        (.start ⟨"alice", []⟩ (Service.sample "ClusterIP"))).insert ("ns", "web") .sample) := by
  have created : Commit Request.placeInNamespace
      (Policy.loadBalancerGate (.always false) .sample) ∅
      (AList.singleton ("ns", "web") (.start ⟨"alice", []⟩ (sample "ClusterIP"))) :=
    Commit.create Snapshot.empty.toCluster
      ⟨⟨"alice", []⟩, "ns", "web", "Service", .create, none, some (sample "ClusterIP")⟩
      rfl rfl ⟨fun _ => rfl, rfl, rfl⟩ rfl
  refine .tail (.single created) ?_
  exact Commit.update Snapshot.empty.toCluster
    ⟨⟨"alice", []⟩, "ns", "web", "Service", .update, some (sample "ClusterIP"),
      some (sample "LoadBalancer")⟩
    rfl rfl rfl ⟨fun operation => (by cases operation), rfl, rfl⟩ rfl

/-- The sample has its protected annotation from when it was of another type. -/
theorem Service.annotationIn_sample :
    annotationIn "lb.appuio.io/ip" Lifetime.sample.current =
      Lifetime.sample.lastOther?.bind (annotationIn "lb.appuio.io/ip") :=
  annotationIn_eq_lastOther? sample_reaches (AList.lookup_insert _) rfl rfl

/-- Not every load balancer in a history is without protected annotations. -/
theorem Service.exists_protected_loadBalancer :
    ∃ (skipper : Skipper) (protectedKeys : Globs) (state : Inventory (String × String))
      (place : String × String) (life : Lifetime) (key value : String),
      Reaches Request.placeInNamespace (Policy.loadBalancerGate skipper protectedKeys) ∅ state ∧
        state.lookup place = some life ∧ isLoadBalancerIn life.current = true ∧
        protectedKeys.isMatch key = true ∧ annotationIn key life.current = some value :=
  ⟨.always false, .sample, _, ("ns", "web"), .sample, "lb.appuio.io/ip", "1.2.3.4",
    sample_reaches, rfl, rfl, rfl, rfl⟩

end History

end Tenancy
