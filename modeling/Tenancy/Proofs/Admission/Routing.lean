import Tenancy.Admission.Service
import Tenancy.Proofs.SortedMap

/-!
# The policy that a request is posted to

A request reaches a policy if it is posted to its name, and no other request reaches any
policy.
-/

namespace Tenancy

/-- A request is posted to a name: its path is a slash and the name. -/
def HttpRequest.PostsTo (request : HttpRequest) (name : String) : Prop :=
  request.method = "POST" ∧ request.path = '/' :: name.toList

namespace Admission

/-- A request is posted to the name of a policy that is served. -/
def Serves (admission : Admission) (request : HttpRequest) (handler : Handler) : Prop :=
  request.PostsTo handler.name ∧ admission.handlers.get? handler.name = some handler

variable {handlers : List Handler} {handler : Handler} {request : HttpRequest} {name : String}

/-- Of the policies with one name, the last is served. -/
theorem get?_ofHandlers (handlers : List Handler) (name : String) :
    (ofHandlers handlers).handlers.get? name = handlers.reverse.find? (·.name == name) := by
  rw [ofHandlers, SortedMap.get?_ofList, ← List.map_reverse, List.find?_map, Option.map_map]
  exact Option.map_id'

theorem name_of_get?_ofHandlers
    (served : (ofHandlers handlers).handlers.get? name = some handler) : handler.name = name := by
  rw [get?_ofHandlers] at served
  simpa using List.find?_some served

theorem mem_of_get?_ofHandlers
    (served : (ofHandlers handlers).handlers.get? name = some handler) : handler ∈ handlers := by
  rw [get?_ofHandlers] at served
  exact List.mem_reverse.mp (List.mem_of_find?_eq_some served)

/-- A request goes to the policy that it is posted to. -/
theorem route_ofHandlers_eq_some_iff :
    (ofHandlers handlers).route request = some handler ↔
      (ofHandlers handlers).Serves request handler := by
  unfold route Serves HttpRequest.PostsTo
  constructor
  · intro routed
    split at routed
    next => cases routed
    next isPost =>
      split at routed
      next name path =>
        have isName := name_of_get?_ofHandlers routed
        rw [isName]
        refine ⟨⟨not_not.mp isPost, ?_⟩, routed⟩
        rw [path, String.toList_ofList]
      next => cases routed
  · rintro ⟨⟨isPost, path⟩, served⟩
    rw [if_neg (not_not.mpr isPost), path]
    simpa using served

/-- A request goes to no policy exactly if it is posted to the name of none. -/
theorem route_ofHandlers_eq_none_iff :
    (ofHandlers handlers).route request = none ↔
      ∀ handler ∈ handlers, ¬ request.PostsTo handler.name := by
  constructor
  · intro notRouted handler member posted
    have named : (ofHandlers handlers).handlers.get? handler.name ≠ none := by
      rw [get?_ofHandlers]
      intro absent
      exact List.find?_eq_none.mp absent handler (List.mem_reverse.mpr member) (by simp)
    obtain ⟨served, isServed⟩ := Option.ne_none_iff_exists'.mp named
    have sameName := name_of_get?_ofHandlers isServed
    rw [← sameName] at posted isServed
    rw [route_ofHandlers_eq_some_iff.mpr ⟨posted, isServed⟩] at notRouted
    cases notRouted
  · intro notPosted
    rw [Option.eq_none_iff_forall_ne_some]
    intro handler routed
    obtain ⟨posted, served⟩ := route_ofHandlers_eq_some_iff.mp routed
    exact notPosted handler (mem_of_get?_ofHandlers served) posted

/-- A request that goes to no policy finds nothing. -/
theorem serve_of_route_eq_none {admission : Admission} {cluster : Cluster}
    (notRouted : admission.route request = none) :
    admission.serve cluster request = ⟨.notFound, [], none⟩ := by
  rw [serve, notRouted]

/-- A request that goes to a policy is answered by it. -/
theorem serve_of_route_eq_some {admission : Admission} {cluster : Cluster}
    (routed : admission.route request = some handler) :
    admission.serve cluster request = answer handler request.body cluster := by
  rw [serve, routed]

/-- A review of a request is evaluated by the policy that it goes to. -/
theorem serve_of_request?_eq_some {admission : Admission} {cluster : Cluster}
    {typeName : TypeName} {carried : ReviewRequest} {asked : Request}
    (routed : admission.route request = some handler)
    (parsed : Review.parse? request.body = some ⟨typeName, some carried⟩)
    (isAsked : carried.request? = some asked) :
    admission.serve cluster request =
      ⟨.json (AdmissionResponse.ofDecision typeName carried
          (handler.evaluate asked cluster).decision).toJson,
        (handler.evaluate asked cluster).calls,
        some (handler.name, (handler.evaluate asked cluster).decision)⟩ := by
  rw [serve_of_route_eq_some routed, answer, parsed]
  simp only [review, isAsked]

/-- A request that names the server goes where one with its path alone would go. -/
theorem route_absolute {admission : Admission} {scheme authority pathAndQuery : String}
    (hasPath : RequestTarget.beforeQuery pathAndQuery ≠ []) :
    admission.route { request with target := .absolute scheme authority pathAndQuery } =
      admission.route { request with target := .origin pathAndQuery } := by
  have samePath : RequestTarget.path (.absolute scheme authority pathAndQuery) =
      RequestTarget.path (.origin pathAndQuery) :=
    if_neg (mt List.isEmpty_iff.mp hasPath)
  simp only [route, HttpRequest.path, samePath]

end Admission

end Tenancy
