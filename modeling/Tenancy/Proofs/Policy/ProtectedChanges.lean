import Tenancy.Policy.LoadBalancer
import Tenancy.Proofs.Cluster.Snapshot
import Tenancy.Proofs.Policy.BadRequest
import Tenancy.Proofs.Policy.ReservedNames

/-!
# What a change of a load balancer is denied for

A change of a service that is a load balancer before or after it is denied exactly if a protected
annotation comes, goes or gets another value, and the reason lists the keys of all that do.  So it
makes no difference which of the two states is the old one, nor what the other annotations are.
-/

namespace Tenancy

/-! ## Annotations that change -/

/-- An annotation of a service: none if the service, its annotations or the key is absent. -/
def Service.annotation? (service : Option Service) (key : String) : Option String :=
  (service.bind fun service => service.metadata.annotations).bind (·.get? key)

/-- The states of an object with the old and the new one exchanged. -/
def States.exchanged {α : Type} (states : States α) : States α := ⟨states.new, states.old⟩

/-- A protected annotation changes: only one of two states of a service has it, or they have
different values. -/
@[mk_iff]
structure Globs.ProtectedChange (globs : Globs) (states : States Service) (key : String) :
    Prop where
  differs : Service.annotation? states.old key ≠ Service.annotation? states.new key
  isProtected : globs.isMatch key = true

/-- The reason that lists the keys of protected annotations, each in a sentence. -/
def Service.denialReason (keys : List String) : String :=
  match keys.map fun key => "annotation " ++ Text.quoted key ++ " may not be changed" with
  | [sentence] => sentence
  | sentences => "[" ++ ", ".intercalate sentences ++ "]"

/-- What is decided about a change of a service: it is allowed if no protected annotation changes,
and if not it is denied for all that do. -/
inductive Globs.Protects (globs : Globs) (states : States Service) : Decision → Prop
  | unchanged : (∀ key, ¬globs.ProtectedChange states key) →
      Protects globs states (.allow "no protected annotation changed" [])
  | changed {keys : List String} : keys ≠ [] →
      Enumerates id keys (globs.ProtectedChange states) →
      Protects globs states (.deny (Service.denialReason keys))

@[simp]
theorem Service.get?_annotationsOf (service : Option Service) (key : String) :
    (annotationsOf service).get? key = annotation? service key := by
  cases service with
  | none => rfl
  | some service =>
      rw [annotationsOf, annotation?, Option.map_some, Option.getD_some, Option.bind_some,
        Metadata.allAnnotations]
      cases service.metadata.annotations <;> rfl

/-- The report on several protected annotations lists their keys. -/
theorem Service.message_report {keys : List String} (notEmpty : keys ≠ []) :
    Report.message ⟨keys.map ProtectedAnnotation.mk⟩ = denialReason keys := by
  have sentences : Report.messages ⟨keys.map ProtectedAnnotation.mk⟩ =
      keys.map fun key => "annotation " ++ Text.quoted key ++ " may not be changed" := by
    rw [Report.messages, List.map_map]
    rfl
  rw [Report.message, denialReason, sentences]
  cases keys with
  | nil => exact absurd rfl notEmpty
  | cons key rest => cases rest <;> rfl

namespace Globs

variable {globs : Globs} {states others : States Service} {decision : Decision}

/-- The annotations that are reported are the protected ones that change. -/
theorem exists_protectedChanges (globs : Globs) (states : States Service) :
    ∃ keys, Enumerates id keys (globs.ProtectedChange states) ∧
      globs.protectedChanges states = ⟨keys.map ProtectedAnnotation.mk⟩ := by
  have listing := (SortedMap.enumerates_changedKeys (Service.annotationsOf states.old)
    (Service.annotationsOf states.new)).filter fun key => Iff.refl (globs.isMatch key = true)
  refine ⟨_, ⟨listing.ascending, ?_⟩, rfl⟩
  intro key
  rw [listing.mem_iff, Service.get?_annotationsOf, Service.get?_annotationsOf,
    protectedChange_iff]

theorem protects_ofReport (globs : Globs) (states : States Service) :
    globs.Protects states
      (Verdict.ofReport "no protected annotation changed"
        (globs.protectedChanges states)).decision := by
  obtain ⟨keys, listing, isReport⟩ := globs.exists_protectedChanges states
  rw [isReport, Verdict.ofReport]
  by_cases isEmpty : keys = []
  · subst isEmpty
    exact .unchanged (listing.eq_nil_iff.mp rfl)
  · rw [if_neg (by simpa [Report.isEmpty] using isEmpty),
      Service.message_report isEmpty]
    exact .changed isEmpty listing

/-- Which annotations change settles what is decided. -/
theorem Protects.unique {other : Decision} (protects : globs.Protects states decision)
    (alsoProtects : globs.Protects states other) : decision = other := by
  cases protects with
  | unchanged noChange =>
      cases alsoProtects with
      | unchanged _ => rfl
      | changed notEmpty listing => exact absurd (listing.eq_nil_iff.mpr noChange) notEmpty
  | changed notEmpty listing =>
      cases alsoProtects with
      | unchanged noChange => exact absurd (listing.eq_nil_iff.mpr noChange) notEmpty
      | changed _ otherListing => rw [listing.unique otherListing]

/-- The decision does not depend on how the same annotations change. -/
theorem Protects.congr (protects : globs.Protects states decision)
    (same : ∀ key, globs.ProtectedChange states key ↔ globs.ProtectedChange others key) :
    globs.Protects others decision := by
  cases protects with
  | unchanged noChange =>
      apply Protects.unchanged
      intro key changes
      exact noChange key ((same key).mpr changes)
  | changed notEmpty listing =>
      exact .changed notEmpty ⟨listing.ascending, listing.mem_iff.trans (same _)⟩

theorem Protects.isDenied_iff (protects : globs.Protects states decision) :
    decision.isDenied = true ↔ ∃ key, globs.ProtectedChange states key := by
  cases protects with
  | unchanged noChange =>
      apply iff_of_false Bool.false_ne_true
      rintro ⟨key, changes⟩
      exact noChange key changes
  | changed notEmpty listing =>
      apply iff_of_true rfl
      by_contra noChange
      exact notEmpty (listing.eq_nil_iff.mpr (not_exists.mp noChange))

theorem protectedChange_exchanged_iff {key : String} :
    globs.ProtectedChange states.exchanged key ↔ globs.ProtectedChange states key := by
  rw [protectedChange_iff, protectedChange_iff]
  exact and_congr_left fun _ => ne_comm

/-- Annotations that are not protected have no part in which protected ones change. -/
theorem protectedChange_iff_of_agree
    (agree : ∀ key, globs.isMatch key = true →
      Service.annotation? states.old key = Service.annotation? others.old key ∧
        Service.annotation? states.new key = Service.annotation? others.new key)
    (key : String) : globs.ProtectedChange states key ↔ globs.ProtectedChange others key := by
  rw [protectedChange_iff, protectedChange_iff]
  apply and_congr_left
  intro isProtected
  obtain ⟨sameOld, sameNew⟩ := agree key isProtected
  rw [sameOld, sameNew]

end Globs

/-! ## Requests -/

/-- With its objects exchanged, the states of a request are read exchanged. -/
theorem States.ofRequest_exchanged {α : Type} {decode : Json → Option α}
    {request other : Request} {states : States α} (isRead : ofRequest decode request = .ok states)
    (newIsOld : other.object = request.oldObject) (oldIsNew : other.oldObject = request.object) :
    ofRequest decode other = .ok states.exchanged := by
  have usable : ¬other.IsUnusable fun json => (decode json).isSome := by
    rintro (unreadNew | unreadOld | ⟨noNew, noOld⟩)
    all_goals apply exists_ofRequest_eq_ok_iff.mp ⟨states, isRead⟩
    · exact .inr (.inl (newIsOld ▸ unreadNew))
    · exact .inl (oldIsNew ▸ unreadOld)
    · exact .inr (.inr ⟨oldIsNew ▸ noOld, newIsOld ▸ noNew⟩)
  obtain ⟨others, otherRead⟩ := exists_ofRequest_eq_ok_iff.mpr usable
  obtain ⟨readNew, readOld⟩ := of_ofRequest_eq_ok isRead
  obtain ⟨otherNew, otherOld⟩ := of_ofRequest_eq_ok otherRead
  have newEq : others.new = states.old := by
    rw [eq_bind_of_map_eq otherNew, eq_bind_of_map_eq readOld, newIsOld]
  have oldEq : others.old = states.new := by
    rw [eq_bind_of_map_eq otherOld, eq_bind_of_map_eq readNew, oldIsNew]
  rw [otherRead, exchanged, ← newEq, ← oldEq]

/-- A request that is not skipped creates or updates a service with given states, which is a load
balancer in one of them. -/
structure Request.ChangesBalancer (request : Request) (skipper : Skipper) (cluster : Cluster)
    (states : States Service) : Prop where
  looked : (skipper.skip request cluster).result = .ok false
  notDelete : request.operation ≠ .delete
  isRead : States.ofRequest Served.ofJson? request = .ok states
  balances : states.old.any Service.isLoadBalancer = true ∨
    states.new.any Service.isLoadBalancer = true

section Decide

variable {skipper : Skipper} {protectedKeys : Globs} {request : Request} {cluster : Cluster}
  {states : States Service}

theorem Policy.protects_loadBalancer (changes : request.ChangesBalancer skipper cluster states) :
    protectedKeys.Protects states
      ((Policy.loadBalancer skipper protectedKeys).evaluate request cluster).decision := by
  have someBalances : ¬(!states.new.any Service.isLoadBalancer &&
      !states.old.any Service.isLoadBalancer) = true := by
    rcases changes.balances with oldBalances | newBalances
    · simp [oldBalances]
    · simp [newBalances]
  have concluded : ((Policy.loadBalancer skipper protectedKeys).decide request states
      cluster).result = .ok (.ofReport "no protected annotation changed"
        (protectedKeys.protectedChanges states)) := by
    simp only [Policy.loadBalancer, if_neg changes.notDelete, if_neg someBalances]
    rfl
  rw [evaluate_decision_of_looked changes.looked,
    decideRequest_decision_of_ok changes.isRead concluded]
  exact protectedKeys.protects_ofReport states

/-- A change of a service that is a load balancer before or after it is denied exactly if some
protected annotation changes, and then all that do are listed by ascending key.  The decision is
the same with the old and the new service exchanged, and it is the same for any two changes in
which the protected annotations are the same. -/
theorem Policy.loadBalancer_exact (changes : request.ChangesBalancer skipper cluster states) :
    let decided (request : Request) (cluster : Cluster) :=
      ((Policy.loadBalancer skipper protectedKeys).evaluate request cluster).decision
    ((decided request cluster).isDenied = true ↔ ∃ key, protectedKeys.isMatch key = true ∧
        Service.annotation? states.old key ≠ Service.annotation? states.new key) ∧
      protectedKeys.Protects states (decided request cluster) ∧
      (∀ (other : Request) (otherCluster : Cluster),
        (skipper.skip other otherCluster).result = .ok false → other.operation ≠ .delete →
        other.object = request.oldObject → other.oldObject = request.object →
        decided other otherCluster = decided request cluster) ∧
      (∀ (other : Request) (otherCluster : Cluster) (others : States Service),
        other.ChangesBalancer skipper otherCluster others →
        (∀ key, protectedKeys.isMatch key = true →
          Service.annotation? states.old key = Service.annotation? others.old key ∧
            Service.annotation? states.new key = Service.annotation? others.new key) →
        decided other otherCluster = decided request cluster) := by
  intro decided
  have protects : protectedKeys.Protects states (decided request cluster) :=
    protects_loadBalancer changes
  refine ⟨?denied, protects, ?exchanged, ?agree⟩
  case denied =>
    rw [protects.isDenied_iff]
    simp only [Globs.protectedChange_iff, and_comm]
  case exchanged =>
    intro other otherCluster looked notDelete newIsOld oldIsNew
    have otherChanges : other.ChangesBalancer skipper otherCluster states.exchanged :=
      ⟨looked, notDelete, States.ofRequest_exchanged changes.isRead newIsOld oldIsNew,
        changes.balances.symm⟩
    have otherProtects : protectedKeys.Protects states.exchanged (decided other otherCluster) :=
      protects_loadBalancer otherChanges
    apply otherProtects.unique
    exact protects.congr fun key => Globs.protectedChange_exchanged_iff.symm
  case agree =>
    intro other otherCluster others otherChanges agree
    have otherProtects : protectedKeys.Protects others (decided other otherCluster) :=
      protects_loadBalancer otherChanges
    apply otherProtects.unique
    exact protects.congr (Globs.protectedChange_iff_of_agree agree)

end Decide

/-! ### A service that becomes a load balancer with other annotations -/

/-- A service of a type with annotations. -/
def Service.sampleWith (serviceType : String) (annotations : List (String × String)) : Json :=
  .object [
    ("metadata", .object [("annotations",
      .object (annotations.map fun (key, value) => (key, .text value)))]),
    ("spec", .object [("type", .text serviceType)])]

/-- A service becomes a load balancer.  Of its protected annotations one goes, one gets another
value and one comes, and another annotation changes too. -/
def Request.sampleBalancer : Request where
  caller := ⟨"alice", ["acme"]⟩
  namespaceName := "ns"
  name := "web"
  kind := "Service"
  operation := .update
  oldObject := some
    (Service.sampleWith "ClusterIP" [("lb/ip", "1"), ("lb/zone", "a"), ("note", "x")])
  object := some
    (Service.sampleWith "LoadBalancer" [("lb/zone", "b"), ("lb/cert", "c"), ("note", "y")])

/-- The sample the other way round: the load balancer becomes a service of another type. -/
def Request.sampleBalancerBack : Request :=
  { sampleBalancer with oldObject := sampleBalancer.object, object := sampleBalancer.oldObject }

/-- The states of the sample. -/
def States.sampleBalancer : States Service where
  old := Request.sampleBalancer.oldObject.bind Served.ofJson?
  new := Request.sampleBalancer.object.bind Served.ofJson?

/-- All three protected annotations are listed, in both directions. -/
theorem Policy.loadBalancer_sampleBalancer :
    Request.sampleBalancer.ChangesBalancer (.always false) Snapshot.empty.toCluster
        .sampleBalancer ∧
      ((Policy.loadBalancer (.always false) (.ofPatterns ["lb/*"])).evaluate .sampleBalancer
          Snapshot.empty.toCluster).decision.isDenied = true ∧
      ((Policy.loadBalancer (.always false) (.ofPatterns ["lb/*"])).evaluate .sampleBalancerBack
          Snapshot.empty.toCluster).decision =
        .deny ("[annotation \"lb/cert\" may not be changed, annotation \"lb/ip\" may not be " ++
          "changed, annotation \"lb/zone\" may not be changed]") := by
  have changes : Request.sampleBalancer.ChangesBalancer (.always false) Snapshot.empty.toCluster
      .sampleBalancer :=
    ⟨rfl, by decide, rfl, .inr rfl⟩
  obtain ⟨isDenied_iff, protects, exchanged, -⟩ :=
    @loadBalancer_exact _ (.ofPatterns ["lb/*"]) _ _ _ changes
  refine ⟨changes, isDenied_iff.mpr ⟨"lb/cert", by decide +kernel, by decide +kernel⟩, ?_⟩
  exact (exchanged .sampleBalancerBack Snapshot.empty.toCluster rfl (by decide) rfl rfl).trans rfl

end Tenancy
