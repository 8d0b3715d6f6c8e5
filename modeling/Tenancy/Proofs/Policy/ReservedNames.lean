import Tenancy.Proofs.Cluster.Snapshot
import Tenancy.Proofs.Config.Policies
import Tenancy.Proofs.Policy.Basic
import Tenancy.Proofs.SortedMap

/-!
# The rules on reserved names that count

A configuration lists rules on reserved names, and several of them may be for one
kind.  The map that the policy is made from keeps only the last rule of each kind, so
what an earlier rule reserves is denied exactly where the last one reserves it too.
-/

namespace Tenancy

/-- Whether a rule reserves a name. -/
def ReservedNamesRule.reserves (rule : ReservedNamesRule) (name : String) : Bool :=
  (Globs.ofPatterns rule.names).isMatch name

/-- Whether a decision is to deny a request. -/
def Decision.isDenied : Decision → Bool
  | .deny .. => true
  | _ => false

/-- The name that a policy on objects of any kind goes by: the one in the current state,
or else the one in the request. -/
def Request.currentName (request : Request) (states : States AnyObject) : String :=
  (states.current.bind (·.metadata.name)).getD request.name

namespace Config

/-- The rules on reserved names for a kind, in their order. -/
def reservedFor (config : Config) (kind : String) : List ReservedNamesRule :=
  config.reservedNames.filter (·.kind == kind)

variable {config : Config}

/-- The globs for a kind are those of its last rule. -/
theorem get?_reservedGlobs (config : Config) (kind : String) :
    config.reservedGlobs.get? kind =
      (config.reservedFor kind).getLast?.map fun rule => .ofPatterns rule.names := by
  rw [reservedGlobs, SortedMap.get?_ofList, ← List.map_reverse, List.find?_map, Option.map_map,
    reservedFor, List.getLast?_filter]
  rfl

/-- Of the handlers that a configuration makes, only one goes by the name of the policy
on reserved names. -/
theorem eq_reservedNames_of_mem_policies {handlers : List Handler} {handler : Handler}
    (built : config.policies = .ok handlers) (member : handler ∈ handlers)
    (named : handler.name = "reserved-names") :
    handler =
      (Policy.reservedNames config.privilegedSkipper config.reservedGlobs).handler := by
  cases makes_of_mem_policies built member with
  | reservedNames => rfl
  | _ =>
      simp [Policy.handler, Policy.namespaceMetadata, Policy.organization, Policy.nodeSelector,
        Policy.namespaceQuota, Policy.fairUse, Policy.loadBalancer] at named

end Config

/-- A request is denied exactly when its name is reserved for its kind. -/
theorem Policy.isDenied_reservedNames {skipper : Skipper} {byKind : SortedMap Globs}
    {request : Request} {cluster : Cluster} {states : States AnyObject}
    (looked : (skipper.skip request cluster).result = .ok false)
    (isRead : States.ofRequest AnyObject.ofJson? request = .ok states) :
    ((Policy.reservedNames skipper byKind).evaluate request cluster).decision.isDenied =
      (byKind.get? request.kind).any (·.isMatch (request.currentName states)) := by
  rw [evaluate_decision_of_looked looked]
  cases reserved : byKind.get? request.kind with
  | none =>
      have concluded : ((Policy.reservedNames skipper byKind).decide request states
          cluster).result = .ok (.allowed ("no reserved " ++ request.kind ++ " names")) := by
        simp only [Policy.reservedNames, reserved]
        rfl
      rw [decideRequest_decision_of_ok isRead concluded]
      rfl
  | some globs =>
      have concluded : ((Policy.reservedNames skipper byKind).decide request states
          cluster).result = .ok (globs.decideName request (request.currentName states)) := by
        simp only [Policy.reservedNames, reserved]
        rfl
      rw [decideRequest_decision_of_ok isRead concluded]
      unfold Globs.decideName
      split
      next isMatch => simp [isMatch, Verdict.decision, Decision.isDenied]
      next noMatch => simp [noMatch, Verdict.allowed, Verdict.decision, Decision.isDenied]

/-- The policy on reserved names that a configuration makes denies a request exactly
when the last rule for its kind reserves its name.  So it honours all rules for the kind
exactly when the last of them reserves the name if any does. -/
theorem Config.isDenied_reservedNames_iff {config : Config} {handlers : List Handler}
    {handler : Handler} {request : Request} {cluster : Cluster} {states : States AnyObject}
    (built : config.policies = .ok handlers) (member : handler ∈ handlers)
    (named : handler.name = "reserved-names")
    (looked : (config.privilegedSkipper.skip request cluster).result = .ok false)
    (isRead : States.ofRequest AnyObject.ofJson? request = .ok states) :
    ((handler.evaluate request cluster).decision.isDenied = true ↔
        ∃ rule, (config.reservedFor request.kind).getLast? = some rule ∧
          rule.reserves (request.currentName states) = true) ∧
      (((handler.evaluate request cluster).decision.isDenied = true ↔
          ∃ rule ∈ config.reservedFor request.kind,
            rule.reserves (request.currentName states) = true) ↔
        ((∃ rule ∈ config.reservedFor request.kind,
            rule.reserves (request.currentName states) = true) →
          ∃ rule, (config.reservedFor request.kind).getLast? = some rule ∧
            rule.reserves (request.currentName states) = true)) := by
  have deniedIff : (handler.evaluate request cluster).decision.isDenied = true ↔
      ∃ rule, (config.reservedFor request.kind).getLast? = some rule ∧
        rule.reserves (request.currentName states) = true := by
    rw [eq_reservedNames_of_mem_policies built member named, Policy.handler,
      Policy.isDenied_reservedNames looked isRead, get?_reservedGlobs, Option.any_map,
      Option.any_eq_true]
    rfl
  refine ⟨deniedIff, ?_, ?_⟩
  · intro honoured reserved
    exact deniedIff.mp (honoured.mpr reserved)
  · intro lastReserves
    rw [deniedIff]
    constructor
    · rintro ⟨rule, isLast, reserves⟩
      exact ⟨rule, List.mem_of_getLast? isLast, reserves⟩
    · exact lastReserves

/-! ### Two rules for one kind -/

/-- A configuration with two rules for one kind. -/
def Config.sampleReserved : Config :=
  { Config.default with
    reservedNames := [⟨"Namespace", ["kube-*"]⟩, ⟨"Namespace", ["default"]⟩] }

/-- A request to create a namespace. -/
def Request.sampleCreate (name : String) : Request where
  caller := ⟨"alice", ["acme"]⟩
  namespaceName := name
  name := name
  kind := "Namespace"
  operation := .create
  oldObject := none
  object := some (.object [("metadata", .object [("name", .text name)])])

theorem Config.mem_policies_sampleReserved :
    ∃ handlers, sampleReserved.policies = .ok handlers ∧
      (Policy.reservedNames sampleReserved.privilegedSkipper
        sampleReserved.reservedGlobs).handler ∈ handlers :=
  ⟨_, rfl, by simp⟩

/-- The sample denies a name that is in its last rule. -/
theorem Config.sampleReserved_denies_default :
    ∃ handlers handler, sampleReserved.policies = .ok handlers ∧ handler ∈ handlers ∧
      handler.name = "reserved-names" ∧
      (handler.evaluate (.sampleCreate "default")
        Snapshot.empty.toCluster).decision.isDenied = true := by
  obtain ⟨handlers, built, member⟩ := mem_policies_sampleReserved
  have isRead : States.ofRequest AnyObject.ofJson? (.sampleCreate "default") =
      .ok ⟨none, some ⟨some "default", none, none, none, none⟩⟩ :=
    rfl
  refine ⟨handlers, _, built, member, rfl, ?_⟩
  exact (isDenied_reservedNames_iff built member rfl rfl isRead).1.mpr
    ⟨⟨"Namespace", ["default"]⟩, rfl, rfl⟩

/-- Not every name that a rule reserves is denied. -/
theorem Config.exists_reserved_not_isDenied :
    ∃ (config : Config) (handlers : List Handler) (handler : Handler) (request : Request)
      (cluster : Cluster) (states : States AnyObject),
      config.policies = .ok handlers ∧ handler ∈ handlers ∧ handler.name = "reserved-names" ∧
        (config.privilegedSkipper.skip request cluster).result = .ok false ∧
        States.ofRequest AnyObject.ofJson? request = .ok states ∧
        (∃ rule ∈ config.reservedNames, rule.kind = request.kind ∧
          rule.reserves (request.currentName states) = true) ∧
        (handler.evaluate request cluster).decision.isDenied = false := by
  obtain ⟨handlers, built, member⟩ := mem_policies_sampleReserved
  exact ⟨.sampleReserved, handlers, _, .sampleCreate "kube-system", Snapshot.empty.toCluster,
    ⟨none, some ⟨some "kube-system", none, none, none, none⟩⟩, built, member, rfl, rfl, rfl,
    ⟨⟨"Namespace", ["kube-*"]⟩, List.mem_cons_self, rfl, rfl⟩, rfl⟩

end Tenancy
