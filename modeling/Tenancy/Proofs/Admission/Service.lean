import Tenancy.Proofs.Admission.Metrics
import Tenancy.Proofs.Policy.Addressed

/-!
# What the admission service answers

A request is answered by the policy that it is posted to, or finds nothing.  What is no
review of a request is turned down without asking the policy, and so is a review of a
connection; every other review is evaluated once, and its answer conveys the decision.
-/

namespace Tenancy

/-! ## Answers to decisions -/

/-- An answer lets a request go ahead with the operations of a patch. -/
structure AdmissionResponse.Carries (response : AdmissionResponse)
    (operations : List PatchOperation) : Prop where
  isAllowed : response.isAllowed = true
  encodes : ∃ bytes, response.patch = some bytes ∧ PatchOperation.Encodes bytes operations

/-- An answer conveys a decision on the review with an identifier. -/
structure AdmissionResponse.Conveys (response : AdmissionResponse) (uid : String)
    (decision : Decision) : Prop where
  isFor : response.uid = uid
  isAllowed : response.isAllowed = true ↔
    (∃ reason warnings, decision = .allow reason warnings) ∨
      ∃ reason operations, decision = .patch reason operations ∧
        ∀ operation ∈ operations, operation.Addresses
  warnings : ∀ reason warnings, decision = .allow reason warnings → response.warnings = warnings
  reason : ∀ reason, decision = .deny reason → response.status.message = reason
  patch : ∀ reason operations, decision = .patch reason operations →
    (∀ operation ∈ operations, operation.Addresses) → response.Carries operations
  unaddressed : ∀ reason operations, decision = .patch reason operations →
    ¬ (∀ operation ∈ operations, operation.Addresses) → response.status.code = 500
  code : ∀ code cause, decision = .error code cause → response.status.code = code

namespace AdmissionResponse

section Patches

variable {operations : List PatchOperation} (typeName : TypeName) (review : ReviewRequest)
  (reason : String)

theorem all_isAddressed_iff : operations.all PatchOperation.isAddressed = true ↔
    ∀ operation ∈ operations, operation.Addresses := by
  simp only [List.all_eq_true, PatchOperation.isAddressed_iff]

/-- A patch whose operations are addressed by pointers is carried out. -/
theorem ofDecision_patch_of_addresses
    (addresses : ∀ operation ∈ operations, operation.Addresses) :
    ofDecision typeName review (.patch reason operations) =
      { allowing typeName review with patch := some (patchJson operations).renderBytes } := by
  simp only [ofDecision, patchBytes, all_isAddressed_iff.mpr addresses, if_true]

/-- A patch with an operation that is not addressed by a pointer fails. -/
theorem ofDecision_patch_of_not_addresses
    (unaddressed : ¬ ∀ operation ∈ operations, operation.Addresses) :
    ofDecision typeName review (.patch reason operations) =
      (allowing typeName review).failing internalCode notAddressed := by
  simp only [ofDecision, patchBytes, mt all_isAddressed_iff.mp unaddressed, if_false,
    Bool.false_eq_true]

end Patches

/-- The answer to a decision conveys it. -/
theorem conveys_ofDecision (typeName : TypeName) (review : ReviewRequest) (decision : Decision) :
    (ofDecision typeName review decision).Conveys review.uid decision := by
  cases decision with
  | allow reason warnings => constructor <;> simp [ofDecision, allowing]
  | deny reason => constructor <;> simp [ofDecision, allowing, denying]
  | error code cause => constructor <;> simp [ofDecision, allowing, denying, failing]
  | patch reason operations =>
      by_cases addresses : ∀ operation ∈ operations, operation.Addresses
      · rw [ofDecision_patch_of_addresses typeName review reason addresses]
        refine ⟨rfl, iff_of_true rfl (.inr ⟨reason, operations, rfl, addresses⟩), ?_, ?_, ?_, ?_,
          ?_⟩
        · rintro _ _ ⟨⟩
        · rintro _ ⟨⟩
        · rintro _ _ ⟨⟩ _
          exact ⟨rfl, _, rfl, PatchOperation.encodes_patchJson addresses⟩
        · rintro _ _ ⟨⟩ unaddressed
          exact absurd addresses unaddressed
        · rintro _ _ ⟨⟩
      · rw [ofDecision_patch_of_not_addresses typeName review reason addresses]
        refine ⟨rfl, iff_of_false Bool.false_ne_true ?_, ?_, ?_, ?_, ?_, ?_⟩
        · rintro (⟨_, _, ⟨⟩⟩ | ⟨_, _, ⟨⟩, addressed⟩)
          exact addresses addressed
        · rintro _ _ ⟨⟩
        · rintro _ ⟨⟩
        · rintro _ _ ⟨⟩ addressed
          exact absurd addressed addresses
        · rintro _ _ ⟨⟩ _
          rfl
        · rintro _ _ ⟨⟩

/-- What went wrong is not told unless the caller can mend it. -/
theorem ofDecision_error_eq {code : Nat} (internal : 500 ≤ code) (typeName : TypeName)
    (review : ReviewRequest) (cause other : Failure) :
    ofDecision typeName review (.error code cause) =
      ofDecision typeName review (.error code other) := by
  have isInternal : internalCode ≤ code := internal
  simp only [ofDecision, failing, if_pos isInternal]

end AdmissionResponse

/-! ## The service -/

/-- A service answers a request: with nothing if it is posted to no policy, and otherwise in a
review, without asking the policy unless there is a request to decide on. -/
inductive Admission.Answers (handlers : List Handler) (cluster : Cluster)
    (request : HttpRequest) : Exchange → Prop
  | notFound : (∀ handler ∈ handlers, ¬ request.PostsTo handler.name) →
      Answers handlers cluster request ⟨.notFound, [], none⟩
  | invalid {handler : Handler} {body : Json} {response : AdmissionResponse} :
      (ofHandlers handlers).Serves request handler →
        (∀ typeName review, Review.parse? request.body ≠ some ⟨typeName, some review⟩) →
        AdmissionResponse.ofJson? body = some response → response.isAllowed = false →
        Answers handlers cluster request ⟨.json body, [], none⟩
  | connection {handler : Handler} {typeName : TypeName} {review : ReviewRequest}
      {body : Json} {response : AdmissionResponse} {cause : Failure} :
      (ofHandlers handlers).Serves request handler →
        Review.parse? request.body = some ⟨typeName, some review⟩ →
        review.action = .connect →
        AdmissionResponse.ofJson? body = some response → response.uid = review.uid →
        response.isAllowed = false → response.status.code = 400 →
        Answers handlers cluster request
          ⟨.json body, [], some (handler.name, .error 400 cause)⟩
  | evaluated {handler : Handler} {typeName : TypeName} {review : ReviewRequest}
      {asked : Request} {body : Json} {response : AdmissionResponse} :
      (ofHandlers handlers).Serves request handler →
        Review.parse? request.body = some ⟨typeName, some review⟩ →
        review.request? = some asked →
        AdmissionResponse.ofJson? body = some response →
        response.Conveys review.uid (handler.evaluate asked cluster).decision →
        Answers handlers cluster request ⟨.json body, (handler.evaluate asked cluster).calls,
          some (handler.name, (handler.evaluate asked cluster).decision)⟩

namespace Admission

/-- Every request is answered. -/
theorem answers_serve (handlers : List Handler) (cluster : Cluster) (request : HttpRequest) :
    Answers handlers cluster request ((ofHandlers handlers).serve cluster request) := by
  cases routed : (ofHandlers handlers).route request with
  | none =>
      rw [serve_of_route_eq_none routed]
      exact .notFound (route_ofHandlers_eq_none_iff.mp routed)
  | some handler =>
      have served := route_ofHandlers_eq_some_iff.mp routed
      rw [serve_of_route_eq_some routed, answer]
      split
      next unread =>
        refine .invalid served (fun _ _ parsed => ?_) (AdmissionResponse.ofJson?_toJson _) rfl
        rw [unread] at parsed
        cases parsed
      next _ noRequest =>
        refine .invalid served (fun _ _ parsed => ?_) (AdmissionResponse.ofJson?_toJson _) rfl
        rw [noRequest] at parsed
        cases parsed
      next typeName carried parsed =>
        cases isAsked : carried.request? with
        | none =>
            have connects := ReviewRequest.request?_eq_none_iff.mp isAsked
            rw [review, isAsked]
            exact .connection served parsed connects (AdmissionResponse.ofJson?_toJson _) rfl rfl
              rfl
        | some asked =>
            rw [review, isAsked]
            exact .evaluated served parsed isAsked (AdmissionResponse.ofJson?_toJson _)
              (AdmissionResponse.conveys_ofDecision typeName carried _)

/-- What is decided in an exchange is decided on the review that the request carries. -/
theorem exists_answer_of_decided {handlers : List Handler} {cluster : Cluster}
    {request : HttpRequest} {name : String} {decision : Decision}
    (decided : ((ofHandlers handlers).serve cluster request).decided = some (name, decision)) :
    ∃ typeName review, Review.parse? request.body = some ⟨typeName, some review⟩ ∧
      ((ofHandlers handlers).serve cluster request).response =
        .json (AdmissionResponse.ofDecision typeName review decision).toJson := by
  cases routed : (ofHandlers handlers).route request with
  | none =>
      rw [serve_of_route_eq_none routed] at decided
      cases decided
  | some handler =>
      rw [serve_of_route_eq_some routed, answer] at decided ⊢
      split at decided
      next => cases decided
      next => cases decided
      next typeName carried parsed =>
        obtain ⟨_, isDecision⟩ := Prod.mk.inj (Option.some.inj decided)
        exact ⟨typeName, carried, parsed, by rw [← isDecision]⟩

/-- The patches of the policies of a configuration are carried out. -/
theorem exists_carries_of_decided {config : Config} {handlers : List Handler} {cluster : Cluster}
    {request : HttpRequest} {name reason : String} {operations : List PatchOperation}
    (built : config.policies = .ok handlers)
    (decided : ((ofHandlers handlers).serve cluster request).decided =
      some (name, .patch reason operations)) :
    ∃ body response, ((ofHandlers handlers).serve cluster request).response = .json body ∧
      AdmissionResponse.ofJson? body = some response ∧ response.Carries operations := by
  have answers := answers_serve handlers cluster request
  generalize (ofHandlers handlers).serve cluster request = exchange at decided answers ⊢
  cases answers with
  | notFound _ => cases decided
  | invalid _ _ _ _ => cases decided
  | connection _ _ _ _ _ _ _ => cases decided
  | @evaluated handler _ _ _ body response served _ _ isRead conveys =>
      obtain ⟨_, isDecision⟩ := Prod.mk.inj (Option.some.inj decided)
      have addresses := Config.addresses_of_mem_policies built
        (mem_of_get?_ofHandlers served.2) isDecision
      rw [isDecision] at conveys
      exact ⟨body, response, rfl, isRead, conveys.patch reason operations rfl addresses⟩

end Admission

/-- A body that is read as a review of a certain type, with a request to decide on. -/
theorem Review.exists_request?_eq_some {body : String} {typeName : TypeName}
    (isAsked : ((Review.parse? body).bind fun review =>
      (review.request.bind ReviewRequest.request?).map fun _ => review.typeName) =
        some typeName) :
    ∃ carried asked, Review.parse? body = some ⟨typeName, some carried⟩ ∧
      carried.request? = some asked := by
  obtain ⟨⟨_, request⟩, parsed, isTyped⟩ := Option.bind_eq_some_iff.mp isAsked
  obtain ⟨asked, isRequest, rfl⟩ := Option.map_eq_some_iff.mp isTyped
  obtain ⟨carried, rfl, isRequest⟩ := Option.bind_eq_some_iff.mp isRequest
  exact ⟨carried, asked, parsed, isRequest⟩

/-! ### A patch that is not carried out -/

/-- A review of a new pod that says it is a pod itself, posted to the policy on
organizations. -/
def HttpRequest.sampleUntyped : HttpRequest where
  method := "POST"
  target := .origin "/organization"
  body := "\x7b\"apiVersion\":\"v1\",\"kind\":\"Pod\",\"request\":\x7b" ++
    "\"uid\":\"u-3\",\"kind\":[\"\",\"v1\",\"Pod\"],\"resource\":[\"\",\"v1\",\"pods\"]," ++
    "\"operation\":\"CREATE\",\"userInfo\":\x7b\x7d\x7d\x7d"

theorem HttpRequest.exists_request?_sampleUntyped :
    ∃ carried asked, Review.parse? sampleUntyped.body = some ⟨⟨"v1", "Pod"⟩, some carried⟩ ∧
      carried.request? = some asked :=
  Review.exists_request?_eq_some (by decide +kernel)

/-- A policy that patches at a place that is no pointer. -/
def Handler.sampleUnaddressed : Handler :=
  ⟨"organization", fun _ _ => ⟨[], .patch "labelled" [.add "labels" .null]⟩⟩

/-- A review of a new pod, posted to the policy on organizations. -/
def HttpRequest.sampleCreate : HttpRequest where
  method := "POST"
  target := .origin "/organization"
  body := "\x7b\"apiVersion\":\"admission.k8s.io/v1\"," ++
    "\"kind\":\"AdmissionReview\",\"request\":\x7b" ++
    "\"uid\":\"u-1\",\"kind\":[\"\",\"v1\",\"Pod\"],\"resource\":[\"\",\"v1\",\"pods\"]," ++
    "\"operation\":\"CREATE\",\"userInfo\":\x7b\x7d\x7d\x7d"

theorem HttpRequest.exists_request?_sampleCreate :
    ∃ carried asked, Review.parse? sampleCreate.body =
        some ⟨⟨"admission.k8s.io/v1", "AdmissionReview"⟩, some carried⟩ ∧
      carried.request? = some asked :=
  Review.exists_request?_eq_some (by decide +kernel)

/-- A policy that fails for some cause. -/
def Handler.sampleFailing (cause : String) : Handler :=
  ⟨"organization", fun _ _ => ⟨[], .error 500 (.plain cause)⟩⟩

namespace Admission

theorem decided_sampleFailing (cause : String) :
    ((ofHandlers [.sampleFailing cause]).serve .sampleEmpty .sampleCreate).decided =
      some ("organization", .error 500 (.plain cause)) := by
  have routed : (ofHandlers [.sampleFailing cause]).route .sampleCreate =
      some (.sampleFailing cause) := rfl
  obtain ⟨carried, asked, parsed, isAsked⟩ := HttpRequest.exists_request?_sampleCreate
  rw [serve_of_request?_eq_some routed parsed isAsked]
  rfl

end Admission

/-- A review of a new namespace without a label, posted to the policy on organizations. -/
def HttpRequest.sampleNamespace : HttpRequest where
  method := "POST"
  target := .origin "/organization"
  body := "\x7b\"apiVersion\":\"admission.k8s.io/v1\"," ++
    "\"kind\":\"AdmissionReview\",\"request\":\x7b\"uid\":\"u-2\",\"name\":\"web\"," ++
    "\"kind\":[\"\",\"v1\",\"Namespace\"],\"resource\":[\"\",\"v1\",\"namespaces\"]," ++
    "\"operation\":\"CREATE\",\"object\":\x7b\"metadata\":\x7b\x7d\x7d," ++
    "\"userInfo\":\x7b\"username\":\"alice\",\"groups\":[\"acme\"]\x7d\x7d\x7d"

/-- A cluster with a user who prefers an organization. -/
def Cluster.samplePreferring : Cluster :=
  Snapshot.toCluster {
    objects := [⟨"User", "", "alice", .object [("metadata", .object [("annotations", .object
      [("appuio.io/default-organization", .text "acme")])])]⟩]
    failing := []
    roleBindings := []
    clusterRoleBindings := [] }

namespace Admission

theorem exists_patch_sampleNamespace :
    ∃ handlers reason operations, Config.default.policies = .ok handlers ∧
      ((ofHandlers handlers).serve .samplePreferring .sampleNamespace).decided =
        some ("organization", .patch reason operations) := by
  have recorded : (Config.default.policies.toOption.bind fun handlers =>
      ((ofHandlers handlers).serve .samplePreferring .sampleNamespace).verdict?) =
        some ("organization", "patch") := by
    decide +kernel
  cases built : Config.default.policies with
  | error fault =>
      rw [built] at recorded
      cases recorded
  | ok handlers =>
      rw [built] at recorded
      obtain ⟨⟨name, decision⟩, decided, recorded⟩ := Option.map_eq_some_iff.mp recorded
      obtain ⟨rfl, isPatch⟩ := Prod.mk.inj recorded
      cases decision with
      | patch reason operations => exact ⟨handlers, reason, operations, rfl, decided⟩
      | allow reason warnings => exact absurd isPatch (by simp [Decision.verdict])
      | deny reason => exact absurd isPatch (by simp [Decision.verdict])
      | error code cause => exact absurd isPatch (by simp [Decision.verdict])

end Admission

end Tenancy
