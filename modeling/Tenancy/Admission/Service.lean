import Tenancy.Admission.Metrics
import Tenancy.Admission.Response
import Tenancy.Policy.Basic

/-!
# The admission service

Every policy answers reviews that are posted to its name.  All other requests find
nothing, and what is no review is answered without asking the policy.
-/

namespace Tenancy

/-- What a request is sent to: a path of the server, a path that is given with the scheme and
the authority of the server, an authority, or the server as a whole. -/
inductive RequestTarget where
  | origin (pathAndQuery : String)
  | absolute (scheme authority pathAndQuery : String)
  | authority (authority : String)
  | asterisk
  deriving Repr, DecidableEq, Inhabited

namespace RequestTarget

/-- The part before a query or a fragment. -/
def beforeQuery (pathAndQuery : String) : List Char :=
  pathAndQuery.toList.takeWhile fun char => char != '?' && char != '#'

/-- The path of a target.  A server that is named without a path is asked for its root, and an
authority has no path. -/
def path : RequestTarget → List Char
  | origin pathAndQuery => beforeQuery pathAndQuery
  | absolute _ _ pathAndQuery =>
      if (beforeQuery pathAndQuery).isEmpty then ['/'] else beforeQuery pathAndQuery
  | authority _ => []
  | asterisk => ['*']

end RequestTarget

/-- A request over HTTP. -/
structure HttpRequest where
  method : String
  target : RequestTarget
  body : String
  deriving Repr, DecidableEq, Inhabited

/-- The path that a request is sent to. -/
def HttpRequest.path (request : HttpRequest) : List Char := request.target.path

/-- A response over HTTP. -/
structure HttpResponse where
  status : Nat
  contentType : Option String
  body : Option Json
  deriving Repr

/-- The response where nothing is served. -/
def HttpResponse.notFound : HttpResponse := ⟨404, none, none⟩

/-- The response that carries a value. -/
def HttpResponse.json (body : Json) : HttpResponse := ⟨200, some "application/json", some body⟩

/-- A request with what came of it: the response, the questions put to the
cluster, and the policy that decided with its decision. -/
structure Exchange where
  response : HttpResponse
  calls : List Call
  decided : Option (String × Decision)
  deriving Repr

/-- The policies that are served, by their names. -/
structure Admission where
  handlers : SortedMap Handler

namespace Admission

/-- Serve some policies; of those with one name the last is served. -/
def ofHandlers (handlers : List Handler) : Admission :=
  ⟨.ofList (handlers.map fun handler => (handler.name, handler))⟩

/-- The names of the policies. -/
def policies (admission : Admission) : List String := admission.handlers.keys

/-- The policy that a request is posted to. -/
def route (admission : Admission) (request : HttpRequest) : Option Handler :=
  if request.method ≠ "POST" then none
  else
    match request.path with
    | '/' :: name => admission.handlers.get? (String.ofList name)
    | _ => none

/-- What is told about a review without a request. -/
def missingRequest : String := "failed to convert AdmissionReview into AdmissionRequest"

/-- What is told about a review of a connection. -/
def connectUnsupported : String := "CONNECT requests are not supported"

/-- Evaluate a policy on a request under review. -/
def review (handler : Handler) (review : ReviewRequest) (cluster : Cluster) : Evaluation :=
  match review.request? with
  | some request => handler.evaluate request cluster
  | none => ⟨[], .badRequest (.plain connectUnsupported)⟩

/-- Answer a request that is posted to a policy. -/
def answer (handler : Handler) (body : String) (cluster : Cluster) : Exchange :=
  match Review.parse? body with
  | none => ⟨.json (AdmissionResponse.invalid unexpectedDocument).toJson, [], none⟩
  | some ⟨_, none⟩ => ⟨.json (AdmissionResponse.invalid missingRequest).toJson, [], none⟩
  | some ⟨typeName, some review⟩ =>
      let evaluation := Admission.review handler review cluster
      ⟨.json (AdmissionResponse.ofDecision typeName review evaluation.decision).toJson,
        evaluation.calls, some (handler.name, evaluation.decision)⟩

/-- Serve a request. -/
def serve (admission : Admission) (cluster : Cluster) (request : HttpRequest) : Exchange :=
  match admission.route request with
  | some handler => answer handler request.body cluster
  | none => ⟨.notFound, [], none⟩

end Admission

namespace DecisionCounts

/-- Count the decision of an exchange, if there is one. -/
def observe (counts : DecisionCounts) (exchange : Exchange) : DecisionCounts :=
  match exchange.decided with
  | some (policy, decision) => counts.record policy decision
  | none => counts

end DecisionCounts

/-- Serve requests one after the other and count the decisions. -/
def Admission.serveAll (admission : Admission) (cluster : Cluster)
    (requests : List HttpRequest) : List Exchange × DecisionCounts :=
  let exchanges := requests.map (admission.serve cluster)
  (exchanges, exchanges.foldl DecisionCounts.observe .empty)

end Tenancy
