import Tenancy.Admission.Response
import Tenancy.Proofs.Json.Members

/-!
# Reading answers to admission reviews

The API server reads the review that carries an answer.  Reading what is written for an
answer gives that answer back, so different answers have different forms.
-/

namespace Tenancy

namespace Json

/-- Read a number that is not below zero. -/
def natural? (json : Json) : Option Nat := json.integer?.bind Int.toNat?

/-- Read a byte. -/
def byte? (json : Json) : Option UInt8 :=
  (json.unsigned? 8).map fun value => UInt8.ofNat value.toNat

@[simp]
theorem byte?_ofInt (byte : UInt8) : byte? (ofInt byte.toNat) = some byte := by
  have fits : Width.fitsUnsigned 8 byte.toNat = true := by
    have small : byte.toNat < Nat.pow 2 8 := byte.toNat_lt
    exact Bool.and_eq_true_iff.mpr
      ⟨decide_eq_true (Int.natCast_nonneg _), decide_eq_true (Int.ofNat_lt.mpr small)⟩
  simp [byte?, unsigned?, integer?, ofInt, fits]

/-- Reading what each entry of a list is written as gives the list back. -/
theorem listOf?_array_map {α : Type} {decode : Json → Option α} {encode : α → Json}
    (reads : ∀ value, decode (encode value) = some value) (values : List α) :
    listOf? decode (.array (values.map encode)) = some values := by
  change (values.map encode).mapM decode = some values
  rw [mapM_eq_some_iff, List.map_map]
  exact List.map_congr_left fun value _ => reads value

end Json

/-- Read what an answer says besides whether the request goes ahead. -/
def ResponseStatus.ofJson? (json : Json) : Option ResponseStatus := do
  let members ← json.object?
  let status ← Json.optional Json.text? members "status"
  let message ← Json.optional Json.text? members "message"
  let reason ← Json.optional Json.text? members "reason"
  let code ← Json.optional Json.natural? members "code"
  return ⟨status.getD "", message.getD "", reason.getD "", code.getD 0⟩

namespace AdmissionResponse

/-- Read the review that carries an answer. -/
def ofJson? (json : Json) : Option AdmissionResponse := do
  let members ← json.object?
  let apiVersion ← Json.required Json.text? members "apiVersion"
  let kind ← Json.required Json.text? members "kind"
  let response ← Json.required Json.object? members "response"
  let uid ← Json.required Json.text? response "uid"
  let isAllowed ← Json.required Json.bool? response "allowed"
  let status ← Json.required ResponseStatus.ofJson? response "status"
  let patch ← Json.optional (Json.listOf? Json.byte?) response "patch"
  let warnings ← Json.optional (Json.listOf? Json.text?) response "warnings"
  return ⟨⟨apiVersion, kind⟩, uid, isAllowed, status, patch, warnings.getD []⟩

end AdmissionResponse

/-- What is left out of a status because it is empty is read as empty. -/
@[simp]
theorem ResponseStatus.ofJson?_toJson (status : ResponseStatus) :
    ofJson? status.toJson = some status := by
  obtain ⟨status, message, reason, code⟩ := status
  by_cases noStatus : status = "" <;> by_cases noMessage : message = "" <;>
    by_cases noReason : reason = "" <;> by_cases noCode : code = 0 <;>
    simp [ofJson?, toJson, noStatus, noMessage, noReason, noCode, Json.object?, Json.optional,
      Json.find?, Json.ofInt, Json.natural?, Json.integer?, Int.toNat?, Json.text?]

namespace AdmissionResponse

/-- Reading the review that carries an answer gives the answer. -/
@[simp]
theorem ofJson?_toJson (response : AdmissionResponse) :
    ofJson? response.toJson = some response := by
  obtain ⟨⟨apiVersion, kind⟩, uid, isAllowed, status, patch, warnings⟩ := response
  have bytesRead (bytes : List UInt8) :
      Json.listOf? Json.byte? (.array (bytes.map fun byte => .ofInt byte.toNat)) = some bytes :=
    Json.listOf?_array_map Json.byte?_ofInt bytes
  have textRead (text : String) : (Json.text text).text? = some text := rfl
  have warningsRead (warnings : List String) :
      Json.listOf? Json.text? (.array (warnings.map Json.text)) = some warnings :=
    Json.listOf?_array_map textRead warnings
  have isEmpty_eq : warnings.isEmpty = decide (warnings = []) := by cases warnings <;> rfl
  cases patch <;> by_cases silent : warnings = [] <;>
    simp [ofJson?, toJson, Json.required, Json.optional, Json.find?, Json.object?, Json.text?,
      Json.bool?, bytesRead, warningsRead, isEmpty_eq, silent]

/-- Decisions are answered without a reason that is one word. -/
theorem reason_ofDecision (typeName : TypeName) (review : ReviewRequest) (decision : Decision) :
    (ofDecision typeName review decision).status.reason = "" := by
  cases decision with
  | patch reason operations =>
      simp only [ofDecision]
      cases patchBytes operations <;> rfl
  | _ => rfl

/-- Different answers have different forms. -/
theorem toJson_injective : Function.Injective toJson := by
  intro first second same
  have read := congrArg ofJson? same
  rw [ofJson?_toJson, ofJson?_toJson] at read
  exact Option.some.inj read

end AdmissionResponse

end Tenancy
