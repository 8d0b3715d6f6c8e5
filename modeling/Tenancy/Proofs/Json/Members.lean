import Tenancy.Cluster.Object
import Tenancy.Proofs.SortedMap

/-!
# Members of JSON objects

An object may be given with several members of one name, of which the last counts.
Putting a member in replaces all of its name and leaves the look-ups of every other
name as they were.  Objects that are read as maps have the look-ups of their
members, and members of which a form is asked are looked at one by one.
-/

namespace Tenancy

namespace SortedMap

universe u

variable {α : Type u}

/-- Placing an entry with a new key inserts it somewhere and moves nothing else. -/
theorem exists_place_eq {key : String} (value : α) {list : List (String × α)}
    (absent : ∀ entry ∈ list, entry.1 ≠ key) :
    ∃ before after, list = before ++ after ∧
      place key value list = before ++ (key, value) :: after := by
  induction list with
  | nil => exact ⟨[], [], rfl, rfl⟩
  | cons head rest ih =>
      obtain ⟨name, old⟩ := head
      have different : key ≠ name := fun same =>
        absent (name, old) List.mem_cons_self same.symm
      rw [place, if_neg different]
      split
      · exact ⟨[], (name, old) :: rest, rfl, rfl⟩
      · obtain ⟨before, after, split_eq, place_eq⟩ := ih fun entry member =>
          absent entry (List.mem_cons_of_mem _ member)
        exact ⟨(name, old) :: before, after, by rw [split_eq]; rfl, by rw [place_eq]; rfl⟩

end SortedMap

namespace Json

/-- The members with one of the given name and value in place of all that had the
name. -/
def withMember (name : String) (value : Json) (members : List (String × Json)) :
    List (String × Json) :=
  setMember name value (members.filter (·.1 != name))

/-! ## Look-ups -/

theorem find?_append (first second : List (String × Json)) (name : String) :
    find? (first ++ second) name = (find? second name).or (find? first name) := by
  simp [find?, List.find?_append, Option.map_or]

theorem find?_cons (member : String × Json) (members : List (String × Json)) (name : String) :
    find? (member :: members) name =
      (find? members name).or (if member.1 = name then some member.2 else none) := by
  change find? ([member] ++ members) name = _
  rw [find?_append]
  by_cases same : member.1 = name <;> simp [find?, same]

theorem find?_filter_of_ne {name other : String} (different : name ≠ other)
    (members : List (String × Json)) :
    find? (members.filter (·.1 != name)) other = find? members other := by
  induction members with
  | nil => rfl
  | cons member members ih =>
      rw [find?_cons, List.filter_cons]
      by_cases same : member.1 = name
      · simp [same, different, ih]
      · simp [same, find?_cons, ih]

theorem find?_eq_none {name : String} {members : List (String × Json)}
    (absent : ∀ member ∈ members, member.1 ≠ name) : find? members name = none := by
  simpa [find?] using absent

private theorem exists_withMember_eq (name : String) (value : Json)
    (members : List (String × Json)) :
    ∃ before after, members.filter (·.1 != name) = before ++ after ∧
      withMember name value members = before ++ (name, value) :: after :=
  SortedMap.exists_place_eq value fun member kept => by
    simpa using (List.mem_filter.mp kept).2

@[simp]
theorem find?_withMember_self (name : String) (value : Json)
    (members : List (String × Json)) :
    find? (withMember name value members) name = some value := by
  obtain ⟨before, after, filter_eq, withMember_eq⟩ := exists_withMember_eq name value members
  have afterAbsent : find? after name = none := by
    refine find?_eq_none fun member inAfter => ?_
    have kept : member ∈ members.filter (·.1 != name) :=
      filter_eq ▸ List.mem_append_right _ inAfter
    simpa using (List.mem_filter.mp kept).2
  rw [withMember_eq, find?_append, find?_cons, afterAbsent]
  simp

theorem find?_withMember_of_ne {name other : String} (different : name ≠ other)
    (value : Json) (members : List (String × Json)) :
    find? (withMember name value members) other = find? members other := by
  obtain ⟨before, after, filter_eq, withMember_eq⟩ := exists_withMember_eq name value members
  rw [withMember_eq, find?_append, find?_cons, if_neg different, Option.or_none,
    ← find?_append, ← filter_eq, find?_filter_of_ne different]

theorem mem_withMember {name : String} {value : Json} {members : List (String × Json)}
    {member : String × Json} (present : member ∈ withMember name value members) :
    member = (name, value) ∨ member ∈ members := by
  rcases SortedMap.mem_place present with same | kept
  · exact .inl same
  · exact .inr (List.mem_filter.mp kept).1

/-- What holds of every member with a name holds of all members with one of them put in
exactly if it holds of all members. -/
theorem all_withMember {name : String} {test : String × Json → Bool}
    (holds : ∀ value, test (name, value) = true) (value : Json) (members : List (String × Json)) :
    (withMember name value members).all test = members.all test := by
  obtain ⟨before, after, filter_eq, withMember_eq⟩ := exists_withMember_eq name value members
  have onlyOthers : (members.filter (·.1 != name)).all test = members.all test := by
    rw [List.all_filter]
    refine List.all_congr rfl fun member => ?_
    obtain ⟨memberName, stored⟩ := member
    by_cases same : memberName = name
    · subst same
      simp [holds stored]
    · simp [same]
  rw [← onlyOthers, filter_eq, withMember_eq]
  simp [holds value]

/-- Only the last of two members of one name that are put in is there. -/
@[simp]
theorem withMember_withMember (name : String) (first second : Json)
    (members : List (String × Json)) :
    withMember name second (withMember name first members) = withMember name second members := by
  obtain ⟨before, after, filter_eq, withMember_eq⟩ := exists_withMember_eq name first members
  have onlyOthers : (before ++ after).filter (·.1 != name) = before ++ after := by
    rw [← filter_eq, List.filter_filter]
    simp
  have removed : (before ++ (name, first) :: after).filter (·.1 != name) = before ++ after := by
    rw [List.filter_append] at onlyOthers ⊢
    simpa [List.filter_cons] using onlyOthers
  rw [withMember, withMember_eq, removed, ← filter_eq, withMember]

/-! ## Fields -/

variable {α : Type}

theorem optional_withMember_of_ne (decode : Json → Option α) {name other : String}
    (different : name ≠ other) (value : Json) (members : List (String × Json)) :
    optional decode (withMember name value members) other = optional decode members other := by
  rw [optional, optional, find?_withMember_of_ne different]

theorem optional_withMember_object (decode : Json → Option α) (name : String)
    (fields members : List (String × Json)) :
    optional decode (withMember name (.object fields) members) name =
      (decode (.object fields)).map some := by
  rw [optional, find?_withMember_self]

/-! ## Objects read as maps -/

/-- Reading every entry of a list gives a list of the same entries read. -/
theorem mapM_eq_some_iff {β : Type} {read : α → Option β} {list : List α} {results : List β} :
    list.mapM read = some results ↔ list.map read = results.map some := by
  induction list generalizing results with
  | nil => cases results <;> simp
  | cons head rest ih =>
      rw [List.mapM_cons, List.map_cons]
      simp only [Option.bind_eq_bind, Option.bind_eq_some_iff, Option.pure_def,
        Option.some.injEq]
      constructor
      · rintro ⟨value, headRead, others, restRead, rfl⟩
        rw [headRead, ih.mp restRead, List.map_cons]
      · intro equal
        cases results with
        | nil => simp at equal
        | cons value others =>
            obtain ⟨headRead, restRead⟩ := List.cons.inj equal
            exact ⟨value, headRead, others, ih.mpr restRead, rfl⟩

theorem isSome_mapM_iff {β : Type} {read : α → Option β} {list : List α} :
    (list.mapM read).isSome ↔ ∀ entry ∈ list, (read entry).isSome := by
  induction list with
  | nil => simp
  | cons head rest ih =>
      rw [List.mapM_cons, List.forall_mem_cons, ← ih]
      cases read head <;> cases rest.mapM read <;> simp

theorem mapOf?_object (decode : Json → Option α) (members : List (String × Json)) :
    mapOf? decode (.object members) =
      (members.mapM fun member =>
        (decode member.2).map fun value => (member.1, value)).map SortedMap.ofList := by
  simp only [mapOf?, object?, Option.bind_eq_bind, Option.bind_some, Option.pure_def,
    Option.map_eq_bind]
  rfl

/-- The look-ups in an object that is read as a map are those of its members,
read. -/
theorem get?_of_mapOf? {decode : Json → Option α} {members : List (String × Json)}
    {map : SortedMap α} (isRead : mapOf? decode (.object members) = some map) (key : String) :
    map.get? key = (find? members key).bind decode := by
  rw [mapOf?_object] at isRead
  obtain ⟨entries, each, rfl⟩ := Option.map_eq_some_iff.mp isRead
  rw [SortedMap.get?_ofList, find?]
  have reversed := congrArg List.reverse (mapM_eq_some_iff.mp each)
  rw [← List.map_reverse, ← List.map_reverse] at reversed
  generalize members.reverse = membersBack at reversed
  generalize entries.reverse = entriesBack at reversed
  clear each
  induction membersBack generalizing entriesBack with
  | nil => cases entriesBack <;> simp_all
  | cons member membersBack ih =>
      cases entriesBack with
      | nil => simp at reversed
      | cons entry entriesBack =>
          obtain ⟨headRead, tailRead⟩ := List.cons.inj reversed
          obtain ⟨value, decoded, rfl⟩ := Option.map_eq_some_iff.mp headRead
          by_cases same : member.1 = key
          · simp [same, decoded]
          · simpa [same] using ih entriesBack tailRead

/-- An object is read as a map exactly when each of its members is read. -/
theorem mapOf?_isSome_iff {decode : Json → Option α} {members : List (String × Json)} :
    (mapOf? decode (.object members)).isSome ↔
      ∀ member ∈ members, (decode member.2).isSome := by
  rw [mapOf?_object, Option.isSome_map, isSome_mapM_iff]
  simp only [Option.isSome_map]

/-- Putting a text in an object of texts stores it in the map that is read. -/
theorem textMap?_withMember {members : List (String × Json)} {map : SortedMap String}
    (isRead : textMap? (.object members) = some map) (name value : String) :
    textMap? (.object (withMember name (.text value) members)) =
      some (map.insert name value) := by
  have readable : (textMap? (.object (withMember name (.text value) members))).isSome := by
    refine mapOf?_isSome_iff.mpr fun member present => ?_
    rcases mem_withMember present with rfl | old
    · rfl
    · exact mapOf?_isSome_iff.mp (Option.isSome_of_eq_some isRead) member old
  obtain ⟨changed, changed_eq⟩ := Option.isSome_iff_exists.mp readable
  rw [changed_eq]
  congr 1
  refine SortedMap.ext_get? fun key => ?_
  rw [get?_of_mapOf? changed_eq, SortedMap.get?_insert]
  by_cases same : name = key
  · subst same
    simp [text?]
  · rw [find?_withMember_of_ne same, if_neg same, get?_of_mapOf? isRead]

/-! ## Texts within members -/

/-- The members of the object that a member holds; there are none if it is absent or
null. -/
def membersAt (name : String) (members : List (String × Json)) : List (String × Json) :=
  ((find? members name).bind object?).getD []

section Texts

variable {name : String} {members : List (String × Json)} {texts : Option (SortedMap String)}

/-- Texts that are there are those of an object. -/
theorem find?_eq_membersAt (isRead : optional textMap? members name = some texts)
    (present : texts.isSome = true) :
    find? members name = some (.object (membersAt name members)) := by
  rw [membersAt]
  unfold optional at isRead
  cases found : find? members name with
  | none =>
      rw [found] at isRead
      rw [← Option.some.inj isRead] at present
      cases present
  | some json =>
      cases json with
      | object fields => rfl
      | null =>
          rw [found] at isRead
          rw [← Option.some.inj isRead] at present
          cases present
      | _ => simp [found, textMap?, mapOf?, object?] at isRead

/-- Without texts there is no object, or none with members. -/
theorem membersAt_eq_nil (isRead : optional textMap? members name = some none) :
    membersAt name members = [] := by
  rw [membersAt]
  unfold optional at isRead
  cases found : find? members name with
  | none => rfl
  | some json =>
      cases json with
      | object fields => simp [found] at isRead
      | _ => rfl

/-- The texts that are read come from the members of the object. -/
theorem textMap?_membersAt (isRead : optional textMap? members name = some texts) :
    textMap? (.object (membersAt name members)) = some (texts.getD .empty) := by
  cases texts with
  | none =>
      rw [membersAt_eq_nil isRead]
      rfl
  | some stored =>
      have found := find?_eq_membersAt isRead rfl
      rw [optional, found] at isRead
      obtain ⟨map, mapRead, same⟩ := Option.map_eq_some_iff.mp isRead
      rw [mapRead, Option.some.inj same]
      rfl

end Texts

/-- The members of an object of texts are its texts. -/
theorem find?_of_textMap? {members : List (String × Json)} {map : SortedMap String}
    (isRead : textMap? (.object members) = some map) (key : String) :
    find? members key = (map.get? key).map .text := by
  rw [get?_of_mapOf? isRead]
  cases found : find? members key with
  | none => rfl
  | some json =>
      obtain ⟨member, isLast, rfl⟩ := Option.map_eq_some_iff.mp found
      have listed := List.mem_reverse.mp (List.mem_of_find?_eq_some isLast)
      have readable := mapOf?_isSome_iff.mp (Option.isSome_of_eq_some isRead) member listed
      obtain ⟨name, json⟩ := member
      cases json with
      | text value => rfl
      | _ => cases readable

/-- The last members of a list of texts are those of the map. -/
theorem find?_map_text (map : SortedMap String) (key : String) :
    find? (map.entries.map fun entry => (entry.1, .text entry.2)) key =
      (map.get? key).map .text := by
  rw [find?, ← List.map_reverse, List.find?_map, Option.map_map,
    ← SortedMap.find?_reverse_entries, Option.map_map]
  rfl

/-- Texts that are put in one after the other cover the members that were there. -/
theorem find?_foldl_withMember (map : SortedMap String) (members : List (String × Json))
    (key : String) :
    find? (map.entries.foldl (fun members entry => withMember entry.1 (.text entry.2) members)
        members) key =
      ((map.get? key).map .text).or (find? members key) := by
  rw [← SortedMap.find?_reverse_entries]
  induction map.entries using List.reverseRec with
  | nil => rfl
  | append_singleton entries entry ih =>
      rw [List.foldl_append, List.reverse_append]
      by_cases same : entry.1 = key
      · subst same
        simp
      · simpa [find?_withMember_of_ne same, same] using ih

end Json

/-! ## Members of a known form -/

namespace Normaliser

open Json

variable {known : List (String × Normaliser)} {members : List (String × Json)}

/-- Members are accepted if each of them whose form is known is null or has that form. -/
theorem accepts_iff : accepts known members = true ↔
    ∀ name value form, (name, value) ∈ members → known.lookup name = some form →
      value = .null ∨ (form value).isSome = true := by
  rw [accepts, List.all_eq_true]
  constructor
  · intro accepted name value form member isKnown
    have hasForm := accepted (name, value) member
    simp only [isKnown] at hasForm
    cases value with
    | null => exact .inl rfl
    | _ => exact .inr hasForm
  · rintro haveForms ⟨name, value⟩ member
    cases isKnown : known.lookup name with
    | none => simp only [isKnown]
    | some form =>
        simp only [isKnown]
        rcases haveForms name value form member isKnown with rfl | hasForm
        · rfl
        · cases value with
          | null => rfl
          | _ => exact hasForm

/-- Members keep their forms where one whose form is not known is put in. -/
theorem accepts_withMember {name : String} (unknown : known.lookup name = none) (value : Json)
    (members : List (String × Json)) :
    accepts known (withMember name value members) = accepts known members :=
  all_withMember (fun value => by simp only [unknown]) value members

end Normaliser

end Tenancy
