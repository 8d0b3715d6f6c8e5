import Tenancy.Cluster.Snapshot
import Tenancy.Proofs.Admission.Response
import Tenancy.Proofs.Admission.Routing

/-!
# Counts of decisions

A request adds one to the count of a policy and a word if the policy decides on it with that
word, and nothing otherwise.  So the counts say how many requests were decided on in which
way, and the order of the requests does not matter.
-/

namespace Tenancy

namespace DecisionCounts

/-- Counting a decision adds one to its own count and keeps all others. -/
theorem count_record (counts : DecisionCounts) (policy other : String) (decision : Decision)
    (word : String) :
    (counts.record policy decision).count other word =
      counts.count other word +
        if policy = other ∧ decision.verdict = word then 1 else 0 := by
  simp only [count, record, SortedMap.get?_insert]
  by_cases samePolicy : policy = other
  · subst samePolicy
    by_cases sameWord : decision.verdict = word
    · subst sameWord
      simp
    · cases counts.byPolicy.get? policy <;> simp [SortedMap.get?_insert, sameWord]
  · simp [samePolicy]

/-- Counting a decision touches the counts of its policy only. -/
theorem get?_byPolicy_record (counts : DecisionCounts) (policy other : String)
    (decision : Decision) :
    (counts.record policy decision).byPolicy.get? other =
      if policy = other then
        some (((counts.byPolicy.get? policy).getD .empty).insert decision.verdict
          (counts.count policy decision.verdict + 1))
      else counts.byPolicy.get? other :=
  SortedMap.get?_insert ..

theorem ext_get? {first second : DecisionCounts}
    (same : ∀ policy, first.byPolicy.get? policy = second.byPolicy.get? policy) :
    first = second :=
  congrArg mk (SortedMap.ext_get? same)

/-- Two decisions are counted in either order. -/
theorem record_comm (counts : DecisionCounts) (policy other : String)
    (decision next : Decision) :
    (counts.record policy decision).record other next =
      (counts.record other next).record policy decision := by
  by_cases sameWord : policy = other ∧ decision.verdict = next.verdict
  · obtain ⟨rfl, sameWord⟩ := sameWord
    simp only [record, sameWord]
  · have otherWord : ¬ (other = policy ∧ next.verdict = decision.verdict) := by
      rintro ⟨rfl, same⟩
      exact sameWord ⟨rfl, same.symm⟩
    refine ext_get? fun name => ?_
    simp only [get?_byPolicy_record, count_record, if_neg sameWord, if_neg otherWord]
    by_cases isFirst : policy = name <;> by_cases isSecond : other = name
    · -- both are counts of one policy, under different words
      have differs : next.verdict ≠ decision.verdict := fun same =>
        otherWord ⟨isSecond.trans isFirst.symm, same⟩
      subst isFirst
      subst isSecond
      simp only [if_true, Option.getD_some]
      refine congrArg some (SortedMap.ext_get? fun word => ?_)
      simp only [SortedMap.get?_insert]
      by_cases isNext : next.verdict = word
      · simp [isNext, Ne.symm (isNext ▸ differs)]
      · simp [isNext]
    all_goals simp [isFirst, isSecond]

end DecisionCounts

/-! ## What is decided on a request -/

namespace Admission

/-- A request is decided on by a policy with a word: it is posted to the policy, with a review
of a request, and the word is that for the decision of the policy.  A review of a connection
counts as an error. -/
inductive Decides (admission : Admission) (cluster : Cluster) (request : HttpRequest)
    (policy word : String) : Prop
  | evaluated {handler : Handler} {typeName : TypeName} {review : ReviewRequest}
      {asked : Request} : admission.Serves request handler → handler.name = policy →
        Review.parse? request.body = some ⟨typeName, some review⟩ →
        review.request? = some asked → (handler.evaluate asked cluster).decision.verdict = word →
        Decides admission cluster request policy word
  | connection {handler : Handler} {typeName : TypeName} {review : ReviewRequest} :
      admission.Serves request handler → handler.name = policy →
        Review.parse? request.body = some ⟨typeName, some review⟩ →
        review.action = .connect → word = "error" →
        Decides admission cluster request policy word

end Admission

/-- The policy that decided in an exchange and the word for its decision. -/
def Exchange.verdict? (exchange : Exchange) : Option (String × String) :=
  exchange.decided.map fun decided => (decided.1, decided.2.verdict)

/-- Only connections have no request to decide on. -/
theorem ReviewRequest.request?_eq_none_iff {review : ReviewRequest} :
    review.request? = none ↔ review.action = .connect := by
  unfold request?
  cases review.action <;> simp

namespace Admission

variable {handlers : List Handler} {cluster : Cluster} {request : HttpRequest}
  {policy word : String}

/-- What is recorded of an exchange is what was decided in it. -/
theorem decides_iff :
    (ofHandlers handlers).Decides cluster request policy word ↔
      ((ofHandlers handlers).serve cluster request).verdict? = some (policy, word) := by
  constructor
  · rintro (⟨served, rfl, parsed, isAsked, rfl⟩ | ⟨served, rfl, parsed, connects, rfl⟩)
    · rw [serve_of_route_eq_some (route_ofHandlers_eq_some_iff.mpr served), answer]
      simp [parsed, review, isAsked, Exchange.verdict?]
    · rw [serve_of_route_eq_some (route_ofHandlers_eq_some_iff.mpr served), answer]
      simp [parsed, review, ReviewRequest.request?_eq_none_iff.mpr connects, Exchange.verdict?,
        Decision.badRequest, Decision.verdict]
  · intro recorded
    cases routed : (ofHandlers handlers).route request with
    | none => simp [serve_of_route_eq_none routed, Exchange.verdict?] at recorded
    | some handler =>
        have served := route_ofHandlers_eq_some_iff.mp routed
        rw [serve_of_route_eq_some routed, answer] at recorded
        cases parsed : Review.parse? request.body with
        | none => simp [parsed, Exchange.verdict?] at recorded
        | some found =>
            obtain ⟨typeName, carried⟩ := found
            cases carried with
            | none => simp [parsed, Exchange.verdict?] at recorded
            | some carried =>
                simp only [parsed, Exchange.verdict?, Option.map_some, Option.some.injEq,
                  Prod.mk.injEq] at recorded
                obtain ⟨isPolicy, isWord⟩ := recorded
                cases isAsked : carried.request? with
                | none =>
                    have connects := ReviewRequest.request?_eq_none_iff.mp isAsked
                    rw [review, isAsked] at isWord
                    exact .connection served isPolicy parsed connects isWord.symm
                | some asked =>
                    rw [review, isAsked] at isWord
                    exact .evaluated served isPolicy parsed isAsked isWord

instance (handlers : List Handler) (policy word : String) :
    DecidablePred fun visit : Cluster × HttpRequest =>
      (ofHandlers handlers).Decides visit.1 visit.2 policy word :=
  fun _ => decidable_of_iff _ decides_iff.symm

end Admission

/-! ## Counting -/

namespace DecisionCounts

/-- An exchange adds one to the count of its verdict and keeps all others. -/
theorem count_observe (counts : DecisionCounts) (exchange : Exchange) (policy word : String) :
    (counts.observe exchange).count policy word =
      counts.count policy word + if exchange.verdict? = some (policy, word) then 1 else 0 := by
  unfold observe Exchange.verdict?
  cases exchange.decided with
  | none => simp
  | some decided => simp [count_record]

theorem observe_comm (counts : DecisionCounts) (first second : Exchange) :
    (counts.observe first).observe second = (counts.observe second).observe first := by
  unfold observe
  cases first.decided with
  | none => rfl
  | some decided =>
      cases second.decided with
      | none => rfl
      | some next => exact counts.record_comm _ _ _ _

/-- The counts after some exchanges are those before, and the numbers of exchanges with each
verdict. -/
theorem count_foldl_observe (exchanges : List Exchange) (counts : DecisionCounts)
    (policy word : String) :
    (exchanges.foldl observe counts).count policy word =
      counts.count policy word +
        exchanges.countP fun exchange => exchange.verdict? = some (policy, word) := by
  induction exchanges generalizing counts with
  | nil => rfl
  | cons exchange rest ih =>
      rw [List.foldl_cons, ih, count_observe, List.countP_cons]
      simp only [decide_eq_true_iff]
      omega

end DecisionCounts

namespace Admission

/-- The counts after some requests, each of which finds the cluster in a state of its own. -/
def countsAfter (admission : Admission) (visits : List (Cluster × HttpRequest)) :
    DecisionCounts :=
  (visits.map fun visit => admission.serve visit.1 visit.2).foldl DecisionCounts.observe .empty

/-- Serving requests one after the other counts their decisions. -/
theorem serveAll_snd (admission : Admission) (cluster : Cluster) (requests : List HttpRequest) :
    (admission.serveAll cluster requests).2 =
      admission.countsAfter (requests.map fun request => (cluster, request)) := by
  rw [serveAll, countsAfter, List.map_map]
  rfl

/-- What finds nothing or is no review of a request is not decided on. -/
theorem decided_eq_none (handlers : List Handler) (cluster : Cluster) (request : HttpRequest)
    (refused : ((ofHandlers handlers).serve cluster request).response.status = 404 ∨
      ∃ message, ((ofHandlers handlers).serve cluster request).response =
        .json (AdmissionResponse.invalid message).toJson) :
    ((ofHandlers handlers).serve cluster request).decided = none := by
  cases routed : (ofHandlers handlers).route request with
  | none => rw [serve_of_route_eq_none routed]
  | some handler =>
      rw [serve_of_route_eq_some routed, answer] at refused ⊢
      split at refused
      next => rfl
      next => rfl
      next typeName carried parsed =>
        rcases refused with notFound | ⟨message, isInvalid⟩
        · cases notFound
        · -- answers to decisions give no reason of their own, invalid ones do
          have sameForm := Option.some.inj (congrArg HttpResponse.body isInvalid)
          have sameAnswer := AdmissionResponse.toJson_injective sameForm
          have sameReason := congrArg (·.status.reason) sameAnswer
          rw [AdmissionResponse.reason_ofDecision] at sameReason
          have differs : "" ≠ "InvalidRequest" := by decide
          exact absurd sameReason differs

end Admission

/-! ### A connection and a request that finds nothing -/

/-- A review of a connection, posted to the policy on organizations of a server that is named. -/
def HttpRequest.sampleConnect : HttpRequest where
  method := "POST"
  target := .absolute "http" "policies" "/organization"
  body := "\x7b\"apiVersion\":\"admission.k8s.io/v1\"," ++
    "\"kind\":\"AdmissionReview\",\"request\":\x7b" ++
    "\"uid\":\"u-1\",\"kind\":[\"\",\"v1\",\"Pod\"],\"resource\":[\"\",\"v1\",\"pods\"]," ++
    "\"operation\":\"CONNECT\",\"userInfo\":\x7b\x7d\x7d\x7d"

/-- A request to read something. -/
def HttpRequest.sampleGet : HttpRequest := ⟨"GET", .origin "/organization", ""⟩

/-- A policy that denies everything. -/
def Handler.sample : Handler := ⟨"organization", fun _ _ => ⟨[], .deny "no"⟩⟩

/-- A cluster that stores nothing. -/
def Cluster.sampleEmpty : Cluster := Snapshot.toCluster ⟨[], [], [], []⟩

end Tenancy
