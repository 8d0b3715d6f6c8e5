import Tenancy.Json.Patch
import Tenancy.Proofs.Json.Members
import Tenancy.Proofs.Json.Pointer
import Tenancy.Text.Digits

/-!
# Applying JSON patches

An operation of a patch goes down to the parent of the place that its pointer names
and puts its value there: adding overwrites a member or makes room for an element,
and replacing needs a value to be there.  The operations of a patch are applied in
their order, and one that fails makes the whole patch fail.
-/

namespace Tenancy

namespace Json

/-- The index that a token names in an array: a number without zeros in front. -/
def index? (token : String) : Option Nat :=
  match token.toList with
  | [] => none
  | ['0'] => some 0
  | '0' :: _ => none
  | digits => if digits.all Char.isDigit then some (Text.decimalValue digits 0) else none

/-- The token that names the place behind the last element of an array. -/
def endToken : String := "-"

/-- The value that a token leads to. -/
def child? (json : Json) (token : String) : Option Json :=
  match json with
  | .object members => find? members token
  | .array elements => (index? token).bind fun index => elements[index]?
  | _ => none

/-- Put a value in place of the one that a token leads to. -/
def setChild? (json : Json) (token : String) (value : Json) : Option Json :=
  match json with
  | .object members =>
      (find? members token).map fun _ => .object (withMember token value members)
  | .array elements => do
      let index ← index? token
      guard (index < elements.length)
      return .array (elements.set index value)
  | _ => none

/-- Put a value where a token leads to: over the member of an object, or in front of
an element of an array, or behind the last one. -/
def addChild? (json : Json) (token : String) (value : Json) : Option Json :=
  match json with
  | .object members => some (.object (withMember token value members))
  | .array elements => do
      let index ← if token = endToken then some elements.length else index? token
      guard (index ≤ elements.length)
      return .array (elements.insertIdx index value)
  | _ => none

/-- Put a value at the place that some segments name.  All values on the way have to
be there; the last step is left to a rule of its own. -/
def putAt? (put : Json → String → Json → Option Json) (value : Json) :
    List String → Json → Option Json
  | [], _ => some value
  | [token], json => put json token value
  | token :: rest, json => do
      let child ← json.child? token
      let changed ← putAt? put value rest child
      json.setChild? token changed

end Json

namespace PatchOperation

/-- How an operation puts its value at the last token of its pointer. -/
def put : PatchOperation → Json → String → Json → Option Json
  | .add .. => Json.addChild?
  | .replace .. => Json.setChild?

/-- Apply an operation to a document. -/
def perform? (operation : PatchOperation) (document : Json) : Option Json := do
  let segments ← Json.Pointer.segments? operation.path
  Json.putAt? operation.put operation.value segments document

/-- Apply the operations of a patch in their order. -/
def applyAll? : List PatchOperation → Json → Option Json
  | [], document => some document
  | operation :: rest, document => do
      let changed ← operation.perform? document
      applyAll? rest changed

@[simp]
theorem applyAll?_nil (document : Json) : applyAll? [] document = some document :=
  rfl

theorem applyAll?_cons (operation : PatchOperation) (rest : List PatchOperation)
    (document : Json) :
    applyAll? (operation :: rest) document = (operation.perform? document).bind (applyAll? rest) :=
  rfl

theorem perform?_addAt (segments : List String) (value document : Json) :
    (addAt segments value).perform? document =
      Json.putAt? Json.addChild? value segments document := by
  simp [perform?, addAt, path, PatchOperation.value, put]

end PatchOperation

/-! ## Adding within nested objects -/

namespace Json

theorem putAt?_cons_cons (put : Json → String → Json → Option Json) (value : Json)
    (token next : String) (rest : List String) {members : List (String × Json)} {child : Json}
    (present : find? members token = some child) :
    putAt? put value (token :: next :: rest) (.object members) =
      (putAt? put value (next :: rest) child).map fun changed =>
        .object (withMember token changed members) := by
  rw [putAt?]
  · simp only [child?, setChild?, present, Option.bind_eq_bind, Option.bind_some,
      Option.map_eq_bind]
    rfl
  · simp

theorem putAt?_addChild?_singleton (value : Json) (token : String)
    (members : List (String × Json)) :
    putAt? addChild? value [token] (.object members) =
      some (.object (withMember token value members)) :=
  rfl

/-- Nothing is added within a value that is null. -/
theorem putAt?_addChild?_null (value : Json) (token : String) (rest : List String) :
    putAt? addChild? value (token :: rest) .null = none := by
  cases rest <;> rfl

end Json

namespace PatchOperation

open Json

variable {members fields own : List (String × Json)} {outer inner : String}

/-- A value is added to an object within another. -/
theorem perform?_addAt_pair (hasOuter : find? members outer = some (.object fields))
    (value : Json) :
    (addAt [outer, inner] value).perform? (.object members) =
      some (.object (withMember outer (.object (withMember inner value fields)) members)) := by
  rw [perform?_addAt, putAt?_cons_cons _ _ _ _ _ hasOuter, putAt?_addChild?_singleton]
  rfl

/-- A value is added to an object within two others. -/
theorem perform?_addAt_triple (hasOuter : find? members outer = some (.object fields))
    (hasInner : find? fields inner = some (.object own)) (key : String) (value : Json) :
    (addAt [outer, inner, key] value).perform? (.object members) =
      some (.object (withMember outer
        (.object (withMember inner (.object (withMember key value own)) fields)) members)) := by
  rw [perform?_addAt, putAt?_cons_cons _ _ _ _ _ hasOuter, putAt?_cons_cons _ _ _ _ _ hasInner,
    putAt?_addChild?_singleton]
  rfl

end PatchOperation

end Tenancy
