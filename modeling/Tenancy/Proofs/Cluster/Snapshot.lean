import Tenancy.Cluster.Snapshot
import Tenancy.Proofs.Cluster.Metadata
import Tenancy.Proofs.Text.Splitting

/-!
# What a snapshot lists

A snapshot lists the objects of a kind that carry the label which a selector asks
for, and an object that is read with a label carries it.
-/

namespace Tenancy

/-- The label that an object carries as it is stored. -/
def Json.labelIn (label : String) (json : Json) : Option String :=
  (((json.member? "metadata").bind (·.member? "labels")).bind (·.member? label)).bind Json.text?

/-- The members of the label map are those of the labels that are stored. -/
theorem Metadata.find?_labelMembers (members : List (String × Json)) (label : String) :
    Json.find? (labelMembers members) label =
      ((Json.object members).member? "labels").bind (·.member? label) := by
  rw [labelMembers, Json.member?, Json.object?, Option.bind_some]
  cases Json.find? members "labels" with
  | none => rfl
  | some labels => cases labels <;> rfl

/-- A namespace that is read with a label carries it. -/
theorem Namespace.labelIn_eq_some {json : Json} {found : Namespace} {label value : String}
    (isRead : Served.ofJson? json = some found)
    (labelled : found.metadata.label? label = some value) : json.labelIn label = some value := by
  have stored := (Option.filter_eq_some_iff.mp labelled).1
  cases json with
  | object members =>
      have present : found.metadata ≠ .empty := by
        intro empty
        rw [empty] at stored
        cases stored
      obtain ⟨fields, hasMetadata⟩ := exists_metadata_object isRead present
      have labelsRead := Metadata.textMap?_labelMembers (ofJson?_metadata isRead hasMetadata)
      rw [Json.get?_of_mapOf? labelsRead, Metadata.find?_labelMembers] at stored
      rw [Json.labelIn, Json.member?, Json.object?, Option.bind_some, hasMetadata]
      exact stored
  | _ => simp [Served.ofJson?, Resource.open?, Json.object?] at isRead

namespace Snapshot

/-- A snapshot with nothing in it. -/
def empty : Snapshot := ⟨[], [], [], []⟩

/-- A selector asks for its key with its value. -/
theorem selects_append {key : String} (noEquals : '=' ∉ key.toList) (wanted : String)
    (json : Json) :
    selects (key ++ "=" ++ wanted) json = (json.labelIn key == some wanted) := by
  have split : (key ++ "=" ++ wanted).toList = key.toList ++ '=' :: wanted.toList := by
    simp
  rw [selects, split, takeWhile_append_mark noEquals _, dropWhile_append_mark noEquals _]
  simp [Json.labelIn]

theorem eq_of_answer_eq_ok {α : Type} {snapshot : Snapshot} {kind : String} {value found : α}
    (answered : snapshot.answer kind value = .ok found) : found = value := by
  unfold answer at answered
  split at answered
  · cases answered
  · exact (Except.ok.inj answered).symm

/-- A list of the objects of a kind that a selector asks for holds those that carry the
label. -/
theorem list_toCluster_of_selector {snapshot : Snapshot} {resource : Resource} {key : String}
    (noEquals : '=' ∉ key.toList) {wanted : String} {values : List Json}
    (listed : snapshot.toCluster.list resource none (some (key ++ "=" ++ wanted)) = .ok values) :
    values = ((snapshot.objects.filter (·.kind == resource.kind)).map StoredObject.value).filter
      (·.labelIn key == some wanted) := by
  rw [eq_of_answer_eq_ok listed, List.filter_map, List.filter_filter]
  congr 2
  funext object
  simp only [Option.all_none, Option.all_some, selects_append noEquals, Function.comp,
    Bool.and_true]
  exact Bool.and_comm ..

end Snapshot

end Tenancy
