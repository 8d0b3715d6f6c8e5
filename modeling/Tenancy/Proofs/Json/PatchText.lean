import Tenancy.Json.Patch
import Tenancy.Proofs.Json.Pointer
import Tenancy.Proofs.Json.Text

/-!
# Reading written patches

A patch whose operations are addressed by pointers is read back from its JSON form, and, if
the numbers in it are in range, from its bytes too.
-/

namespace Tenancy

/-- Read one operation of a patch; its path has to be a pointer. -/
def PatchOperation.ofJson? (json : Json) : Option PatchOperation := do
  let members ← json.object?
  let verb ← Json.required Json.text? members "op"
  let path ← Json.required Json.text? members "path"
  let value ← Json.find? members "value"
  let _ ← Json.Pointer.segments? path
  match verb with
  | "add" => return .add path value
  | "replace" => return .replace path value
  | _ => none

/-- Read the operations of a patch from the bytes of its text. -/
def PatchOperation.parse? (bytes : List UInt8) : Option (List PatchOperation) :=
  (Json.parseBytes? bytes).bind (Json.listOf? PatchOperation.ofJson?)

/-- An operation says by a pointer where it puts its value. -/
def PatchOperation.Addresses (operation : PatchOperation) : Prop :=
  ∃ segments, Json.Pointer.segments? operation.path = some segments

/-- Two operations do the same in one place, with values that are the same up to the decimals
that stand for their doubles. -/
structure PatchOperation.Same (operation other : PatchOperation) : Prop where
  verb : operation.verb = other.verb
  path : operation.path = other.path
  value : Json.Same operation.value other.value

/-- Some bytes are the text of the JSON form of a patch, and are read as its operations if the
numbers in their values are in range. -/
structure PatchOperation.Encodes (bytes : List UInt8) (operations : List PatchOperation) :
    Prop where
  form : ∃ json : Json, bytes = json.renderBytes ∧
    Json.listOf? PatchOperation.ofJson? json = some operations
  reads : (∀ operation ∈ operations, operation.value.InRange) →
    ∃ read, PatchOperation.parse? bytes = some read ∧
      List.Forall₂ PatchOperation.Same read operations

namespace PatchOperation

theorem isAddressed_iff {operation : PatchOperation} :
    operation.isAddressed = true ↔ operation.Addresses := by
  rw [isAddressed, Json.Pointer.isPointer_eq, Option.isSome_iff_exists, Addresses]

/-- An operation on a place with segments has a pointer to it. -/
theorem addresses_addAt (segments : List String) (value : Json) :
    (addAt segments value).Addresses :=
  ⟨segments, Json.Pointer.segments?_ofSegments segments⟩

/-- The same operation with another value. -/
def withValue (operation : PatchOperation) (value : Json) : PatchOperation :=
  match operation with
  | .add path _ => .add path value
  | .replace path _ => .replace path value

theorem withValue_value (operation : PatchOperation) :
    operation.withValue operation.value = operation := by
  cases operation <;> rfl

theorem same_withValue {operation : PatchOperation} {value : Json}
    (same : Json.Same value operation.value) : (operation.withValue value).Same operation := by
  cases operation <;> exact ⟨rfl, rfl, same⟩

/-- An operation is read from the members of its JSON form. -/
theorem ofJson?_object {operation : PatchOperation} (addresses : operation.Addresses)
    (value : Json) :
    ofJson? (.object [("op", .text operation.verb), ("path", .text operation.path),
      ("value", value)]) = some (operation.withValue value) := by
  obtain ⟨segments, isPointer⟩ := addresses
  cases operation with
  | add path _ =>
      have pathRead : Json.Pointer.segments? path = some segments := isPointer
      simp [ofJson?, Json.object?, Json.required, Json.find?, Json.text?, PatchOperation.path,
        verb, withValue, pathRead]
  | replace path _ =>
      have pathRead : Json.Pointer.segments? path = some segments := isPointer
      simp [ofJson?, Json.object?, Json.required, Json.find?, Json.text?, PatchOperation.path,
        verb, withValue, pathRead]

theorem ofJson?_toJson {operation : PatchOperation} (addresses : operation.Addresses) :
    ofJson? operation.toJson = some operation := by
  rw [toJson, ofJson?_object addresses, withValue_value]

/-- A patch is read back from its JSON form. -/
theorem listOf?_patchJson {operations : List PatchOperation}
    (addresses : ∀ operation ∈ operations, operation.Addresses) :
    Json.listOf? ofJson? (patchJson operations) = some operations := by
  change (operations.map toJson).mapM ofJson? = some operations
  rw [Json.mapM_eq_some_iff, List.map_map]
  exact List.map_congr_left fun operation member => ofJson?_toJson (addresses operation member)

/-- What is the same as the JSON form of an operation is read as the same operation. -/
theorem exists_ofJson?_of_same {operation : PatchOperation} (addresses : operation.Addresses)
    {json : Json} (same : Json.Same json operation.toJson) :
    ∃ read, ofJson? json = some read ∧ read.Same operation := by
  generalize isForm : operation.toJson = form at same
  cases same with
  | null => cases isForm
  | bool value => cases isForm
  | number _ => cases isForm
  | text value => cases isForm
  | array _ => cases isForm
  | @object members others sameNames sameValues =>
      cases isForm
      obtain ⟨⟨_, verb⟩, _, rfl, rfl, twoNames⟩ := List.map_eq_cons_iff.mp sameNames
      obtain ⟨⟨_, path⟩, _, rfl, rfl, oneName⟩ := List.map_eq_cons_iff.mp twoNames
      obtain ⟨⟨_, value⟩, _, rfl, rfl, noName⟩ := List.map_eq_cons_iff.mp oneName
      cases List.map_eq_nil_iff.mp noName
      obtain ⟨sameVerb, sameRest⟩ := List.forall₂_cons.mp sameValues
      obtain ⟨samePath, sameRest⟩ := List.forall₂_cons.mp sameRest
      obtain ⟨sameValue, -⟩ := List.forall₂_cons.mp sameRest
      cases sameVerb
      cases samePath
      exact ⟨_, ofJson?_object addresses value, same_withValue sameValue⟩

theorem exists_listOf?_of_same {operations : List PatchOperation}
    (addresses : ∀ operation ∈ operations, operation.Addresses) {elements : List Json}
    (same : List.Forall₂ Json.Same elements (operations.map toJson)) :
    ∃ read, elements.mapM ofJson? = some read ∧ List.Forall₂ Same read operations := by
  induction operations generalizing elements with
  | nil =>
      cases same
      exact ⟨[], rfl, .nil⟩
  | cons operation rest ih =>
      obtain ⟨element, others, isSame, othersSame, rfl⟩ := List.forall₂_cons_right_iff.mp same
      obtain ⟨first, isRead, firstSame⟩ :=
        exists_ofJson?_of_same (addresses operation List.mem_cons_self) isSame
      obtain ⟨read, areRead, restSame⟩ :=
        ih (fun operation member => addresses operation (.tail _ member)) othersSame
      exact ⟨first :: read, by rw [List.mapM_cons, isRead, areRead]; rfl,
        .cons firstSame restSame⟩

theorem inRange_patchJson {operations : List PatchOperation}
    (inRange : ∀ operation ∈ operations, operation.value.InRange) :
    (patchJson operations).InRange := by
  refine .array fun element member => ?_
  obtain ⟨operation, isOperation, rfl⟩ := List.mem_map.mp member
  refine .object fun value isValue => ?_
  simp at isValue
  rcases isValue with rfl | rfl | rfl
  · exact .text _
  · exact .text _
  · exact inRange operation isOperation

/-- A patch is read back from its bytes. -/
theorem exists_parse?_patchJson {operations : List PatchOperation}
    (addresses : ∀ operation ∈ operations, operation.Addresses)
    (inRange : ∀ operation ∈ operations, operation.value.InRange) :
    ∃ read, parse? (patchJson operations).renderBytes = some read ∧
      List.Forall₂ Same read operations := by
  obtain ⟨json, isRead, same⟩ := (inRange_patchJson inRange).parseBytes?_renderBytes
  rw [parse?, isRead, Option.bind_some]
  cases same with
  | array same => exact exists_listOf?_of_same addresses same

/-- The bytes of a patch encode it. -/
theorem encodes_patchJson {operations : List PatchOperation}
    (addresses : ∀ operation ∈ operations, operation.Addresses) :
    Encodes (patchJson operations).renderBytes operations :=
  ⟨⟨patchJson operations, rfl, listOf?_patchJson addresses⟩, exists_parse?_patchJson addresses⟩

end PatchOperation

end Tenancy
