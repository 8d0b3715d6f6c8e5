import Mathlib.Data.Option.Basic
import Tenancy.Proofs.Json.Members

/-!
# Metadata with other labels

Changing a label in the JSON form of an object changes that label in what is read,
and nothing else.
-/

namespace Tenancy

open Json

/-- The members of the label map in the members of metadata; there are none if the
map is absent or null. -/
def Metadata.labelMembers (metadata : List (String × Json)) : List (String × Json) :=
  ((find? metadata "labels").bind object?).getD []

/-- The members of metadata with one more label. -/
def Metadata.withLabel (label value : String) (metadata : List (String × Json)) :
    List (String × Json) :=
  withMember "labels" (.object (withMember label (.text value) (labelMembers metadata))) metadata

namespace Metadata

variable {members : List (String × Json)} {metadata : Metadata}

/-- The fields of metadata are read one by one. -/
theorem ofJson?_object_eq_some_iff :
    Metadata.ofJson? (.object members) = some metadata ↔
      Normaliser.accepts otherForms members = true ∧
        Json.optional text? members "name" = some metadata.name ∧
        Json.optional text? members "generateName" = some metadata.generateName ∧
        Json.optional text? members "namespace" = some metadata.namespaceName ∧
        Json.optional textMap? members "labels" = some metadata.labels ∧
        Json.optional textMap? members "annotations" = some metadata.annotations := by
  obtain ⟨name, generateName, namespaceName, labels, annotations⟩ := metadata
  simp only [ofJson?, object?, Option.bind_eq_bind, Option.bind_some, Option.bind_eq_some_iff,
    Option.guard_eq_some', exists_const, Option.pure_def, Option.some.injEq, Metadata.mk.injEq]
  constructor
  · rintro ⟨accepted, _, nameRead, _, generateRead, _, namespaceRead, _, labelsRead, _,
      annotationsRead, rfl, rfl, rfl, rfl, rfl⟩
    exact ⟨accepted, nameRead, generateRead, namespaceRead, labelsRead, annotationsRead⟩
  · rintro ⟨accepted, nameRead, generateRead, namespaceRead, labelsRead, annotationsRead⟩
    exact ⟨accepted, _, nameRead, _, generateRead, _, namespaceRead, _, labelsRead, _,
      annotationsRead, rfl, rfl, rfl, rfl, rfl⟩

/-- The labels are read from their member. -/
theorem optional_labels (isRead : Metadata.ofJson? (.object members) = some metadata) :
    Json.optional textMap? members "labels" = some metadata.labels :=
  (ofJson?_object_eq_some_iff.mp isRead).2.2.2.2.1

/-- Labels that are there are those of a label map. -/
theorem find?_labels_eq_labelMembers
    (isRead : Metadata.ofJson? (.object members) = some metadata)
    (present : metadata.labels.isSome = true) :
    find? members "labels" = some (.object (labelMembers members)) :=
  find?_eq_membersAt (optional_labels isRead) present

/-- Without labels there is no label map, or none with members. -/
theorem labelMembers_eq_nil (isRead : Metadata.ofJson? (.object members) = some metadata)
    (absent : metadata.labels = none) : labelMembers members = [] := by
  have labelsRead := optional_labels isRead
  rw [absent] at labelsRead
  exact membersAt_eq_nil labelsRead

/-- The labels that are read come from the members of the label map. -/
theorem textMap?_labelMembers (isRead : Metadata.ofJson? (.object members) = some metadata) :
    textMap? (.object (labelMembers members)) = some metadata.allLabels :=
  textMap?_membersAt (optional_labels isRead)

/-- Adding a label to the JSON form of metadata adds it to the labels that are
read. -/
theorem ofJson?_withLabel (isRead : Metadata.ofJson? (.object members) = some metadata)
    (label value : String) :
    Metadata.ofJson? (.object (withLabel label value members)) =
      some { metadata with labels := some (metadata.allLabels.insert label value) } := by
  obtain ⟨accepted, name, generateName, namespaceName, _, annotations⟩ :=
    ofJson?_object_eq_some_iff.mp isRead
  refine ofJson?_object_eq_some_iff.mpr ⟨?_, ?_, ?_, ?_, ?_, ?_⟩
  · rw [withLabel, Normaliser.accepts_withMember (by decide), accepted]
  · rw [withLabel, optional_withMember_of_ne _ (by decide), name]
  · rw [withLabel, optional_withMember_of_ne _ (by decide), generateName]
  · rw [withLabel, optional_withMember_of_ne _ (by decide), namespaceName]
  · rw [withLabel, optional_withMember_object,
      textMap?_withMember (textMap?_labelMembers isRead)]
    rfl
  · rw [withLabel, optional_withMember_of_ne _ (by decide), annotations]

@[simp]
theorem label?_insert_self (metadata : Metadata) {label value : String} (nonempty : value ≠ "") :
    Metadata.label?
        { metadata with labels := some (metadata.allLabels.insert label value) } label =
      some value := by
  simp [label?, allLabels, nonempty]

end Metadata

/-- Other metadata in the JSON form of an object are read in place of the ones it
had, and its other members stay as they are. -/
theorem Resource.open?_withMetadata {resource : Resource} {members : List (String × Json)}
    {opened : Metadata × List (String × Json)}
    (isRead : resource.open? (.object members) = some opened) {fields : List (String × Json)}
    {metadata : Metadata} (newRead : Metadata.ofJson? (.object fields) = some metadata) :
    resource.open? (.object (withMember "metadata" (.object fields) members)) =
      some (metadata, withMember "metadata" (.object fields) members) := by
  have agreesStays : resource.agrees (withMember "metadata" (.object fields) members) =
      resource.agrees members := by
    simp only [agrees, find?_withMember_of_ne (by decide : "metadata" ≠ "apiVersion"),
      find?_withMember_of_ne (by decide : "metadata" ≠ "kind")]
  have agreed : resource.agrees members = true := by
    by_contra disagrees
    simp [open?, object?, disagrees] at isRead
  simp [open?, object?, agreesStays, agreed, optional_withMember_object, newRead]

/-- The members of an object and its metadata, if it is read as an object of a
resource. -/
theorem Resource.open?_object_eq_some {resource : Resource} {members : List (String × Json)}
    {opened : Metadata × List (String × Json)}
    (isRead : resource.open? (.object members) = some opened) : opened.2 = members := by
  simp only [open?, object?, Option.bind_eq_bind, Option.bind_some, Option.bind_eq_some_iff,
    Option.pure_def, Option.some.injEq] at isRead
  obtain ⟨_, _, _, _, rfl⟩ := isRead
  rfl

/-- A member that says nothing about the type of an object, and is not its metadata, can be
put in without a change to what opens it. -/
theorem Resource.open?_withMember_of_ne {resource : Resource} {members : List (String × Json)}
    {opened : Metadata × List (String × Json)}
    (isRead : resource.open? (.object members) = some opened) {name : String}
    (other : name ≠ "apiVersion" ∧ name ≠ "kind" ∧ name ≠ "metadata") (value : Json) :
    resource.open? (.object (withMember name value members)) =
      some (opened.1, withMember name value members) := by
  have agreesStays : resource.agrees (withMember name value members) = resource.agrees members := by
    simp only [agrees, find?_withMember_of_ne other.1, find?_withMember_of_ne other.2.1]
  simp only [open?, object?, Option.bind_eq_bind, Option.bind_some, Option.bind_eq_some_iff,
    Option.pure_def, Option.some.injEq, agreesStays,
    optional_withMember_of_ne _ other.2.2] at isRead ⊢
  obtain ⟨_, agreed, metadata, metadataRead, rfl⟩ := isRead
  exact ⟨_, agreed, metadata, metadataRead, rfl⟩

/-- A namespace is read as its metadata, and its other members have their forms. -/
theorem Namespace.ofJson?_object_eq_some_iff {members : List (String × Json)}
    {found : Namespace} :
    Served.ofJson? (.object members) = some found ↔
      Resource.open? (Served.resource Namespace) (.object members) =
          some (found.metadata, members) ∧
        Normaliser.accepts forms members = true := by
  obtain ⟨metadata⟩ := found
  simp only [Served.ofJson?, Option.bind_eq_bind, Option.bind_eq_some_iff, Option.pure_def,
    Option.guard_eq_some', exists_const, Option.some.injEq, Namespace.mk.injEq]
  constructor
  · rintro ⟨⟨_, rest⟩, opened, accepted, rfl⟩
    obtain rfl : rest = members := Resource.open?_object_eq_some opened
    exact ⟨opened, accepted⟩
  · rintro ⟨opened, accepted⟩
    exact ⟨(metadata, members), opened, accepted, rfl⟩

/-- The metadata of a namespace are read from their member. -/
theorem Namespace.exists_optional_metadata {members : List (String × Json)} {found : Namespace}
    (isRead : Served.ofJson? (.object members) = some found) :
    ∃ metadata, Json.optional Metadata.ofJson? members "metadata" = some metadata ∧
      found.metadata = metadata.getD .empty := by
  obtain ⟨opened, _⟩ := ofJson?_object_eq_some_iff.mp isRead
  simp only [Resource.open?, object?, Option.bind_eq_bind, Option.bind_some,
    Option.bind_eq_some_iff, Option.pure_def, Option.some.injEq, Prod.mk.injEq] at opened
  obtain ⟨_, _, read, optionalRead, same, _⟩ := opened
  exact ⟨read, optionalRead, same.symm⟩

/-- A namespace whose metadata are an object is read with them. -/
theorem Namespace.ofJson?_metadata {members fields : List (String × Json)} {found : Namespace}
    (isRead : Served.ofJson? (.object members) = some found)
    (hasMetadata : find? members "metadata" = some (.object fields)) :
    Metadata.ofJson? (.object fields) = some found.metadata := by
  obtain ⟨read, optionalRead, metadataEq⟩ := exists_optional_metadata isRead
  rw [Json.optional, hasMetadata] at optionalRead
  obtain ⟨metadata, metadataRead, rfl⟩ := Option.map_eq_some_iff.mp optionalRead
  rw [metadataRead, metadataEq]
  rfl

/-- Metadata that say something are an object. -/
theorem Namespace.exists_metadata_object {members : List (String × Json)} {found : Namespace}
    (isRead : Served.ofJson? (.object members) = some found)
    (present : found.metadata ≠ .empty) :
    ∃ fields, find? members "metadata" = some (.object fields) := by
  obtain ⟨read, optionalRead, metadataEq⟩ := exists_optional_metadata isRead
  rw [Json.optional] at optionalRead
  cases hasMetadata : find? members "metadata" with
  | none =>
      rw [hasMetadata] at optionalRead
      rw [metadataEq, ← Option.some.inj optionalRead] at present
      exact absurd rfl present
  | some metadata =>
      rw [hasMetadata] at optionalRead
      cases metadata with
      | object fields => exact ⟨fields, rfl⟩
      | null =>
          rw [metadataEq, ← Option.some.inj optionalRead] at present
          exact absurd rfl present
      | _ => cases optionalRead

/-- A namespace with one more label is read with that label. -/
theorem Namespace.ofJson?_withLabel {members fields : List (String × Json)} {found : Namespace}
    (isRead : Served.ofJson? (.object members) = some found)
    (hasMetadata : find? members "metadata" = some (.object fields)) (label value : String) :
    Served.ofJson? (.object
        (withMember "metadata" (.object (Metadata.withLabel label value fields)) members)) =
      some (⟨{ found.metadata with
        labels := some (found.metadata.allLabels.insert label value) }⟩ : Namespace) := by
  have labelled := Metadata.ofJson?_withLabel (ofJson?_metadata isRead hasMetadata) label value
  obtain ⟨opened, accepted⟩ := ofJson?_object_eq_some_iff.mp isRead
  refine ofJson?_object_eq_some_iff.mpr ⟨Resource.open?_withMetadata opened labelled, ?_⟩
  rw [Normaliser.accepts_withMember (by decide), accepted]

end Tenancy
