import Tenancy.Admission.Review
import Tenancy.Decision
import Tenancy.Json.Writer

/-!
# Answers to admission reviews

The answer to a review says whether the request goes ahead and what becomes of its
object.  Why it does not go ahead is told only if the caller can mend it.
-/

namespace Tenancy

/-- What an answer says besides whether the request goes ahead. -/
structure ResponseStatus where
  status : String
  message : String
  reason : String
  code : Nat
  deriving Repr, DecidableEq

/-- Nothing further. -/
def ResponseStatus.empty : ResponseStatus := ⟨"", "", "", 0⟩

/-- The JSON form of a status, without what is empty. -/
def ResponseStatus.toJson (status : ResponseStatus) : Json :=
  let text (name value : String) : List (String × Json) :=
    if value = "" then [] else [(name, .text value)]
  .object ((if status.code = 0 then [] else [("code", .ofInt status.code)]) ++
    text "message" status.message ++ text "reason" status.reason ++
    text "status" status.status)

/-- An answer to a review. -/
structure AdmissionResponse where
  typeName : TypeName
  uid : String
  isAllowed : Bool
  status : ResponseStatus
  /-- The bytes of a JSON patch. -/
  patch : Option (List UInt8)
  warnings : List String
  deriving Repr, DecidableEq

namespace AdmissionResponse

/-- The type of answers to what cannot be read as a review. -/
def invalidType : TypeName := ⟨"admission.k8s.io/v1beta1", "AdmissionReview"⟩

/-- The answer to what is no review, or a review without a request. -/
def invalid (message : String) : AdmissionResponse :=
  ⟨invalidType, "", false, ⟨"Failure", message, "InvalidRequest", 0⟩, none, []⟩

/-- The answer that lets a request go ahead. -/
def allowing (typeName : TypeName) (review : ReviewRequest) : AdmissionResponse :=
  ⟨typeName, review.uid, true, .empty, none, []⟩

/-- The same answer, but the request does not go ahead. -/
def denying (response : AdmissionResponse) (message : String) (code : Nat) :
    AdmissionResponse :=
  { response with isAllowed := false, status := ⟨"", message, "", code⟩ }

/-- What is told about a failure that is not the caller's. -/
def internalMessage : String := "internal error"

/-- The same answer, but the request does not go ahead because of a failure. -/
def failing (response : AdmissionResponse) (code : Nat) (message : String) :
    AdmissionResponse :=
  response.denying (if internalCode ≤ code then internalMessage else message) code

/-- The description of an operation without a pointer. -/
def notAddressed : String := "json pointer is malformed"

/-- The bytes of a patch, all of whose operations have to be addressed by pointers. -/
def patchBytes (operations : List PatchOperation) : Except String (List UInt8) :=
  if operations.all PatchOperation.isAddressed then .ok (patchJson operations).renderBytes
  else .error notAddressed

/-- The answer that a decision amounts to. -/
def ofDecision (typeName : TypeName) (review : ReviewRequest) (decision : Decision) :
    AdmissionResponse :=
  let response := allowing typeName review
  match decision with
  | .allow _ warnings => { response with warnings }
  | .deny reason => response.denying reason 0
  | .patch _ operations =>
      match patchBytes operations with
      | .ok bytes => { response with patch := some bytes }
      | .error message => response.failing internalCode message
  | .error code cause => response.failing code cause.message

/-- The name of the form of patches. -/
def patchType : String := "JSONPatch"

/-- The review that carries an answer. -/
def toJson (response : AdmissionResponse) : Json :=
  let patch := match response.patch with
    | some bytes =>
        [("patch", .array (bytes.map fun byte => .ofInt byte.toNat)),
          ("patchType", .text patchType)]
    | none => []
  let warnings :=
    if response.warnings.isEmpty then []
    else [("warnings", .array (response.warnings.map Json.text))]
  .object [("apiVersion", .text response.typeName.apiVersion),
    ("kind", .text response.typeName.kind),
    ("response", .object ([("uid", .text response.uid), ("allowed", .bool response.isAllowed),
      ("status", response.status.toJson)] ++ patch ++ warnings))]

end AdmissionResponse

end Tenancy
