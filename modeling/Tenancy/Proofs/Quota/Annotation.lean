import Tenancy.Proofs.Json.Members
import Tenancy.Proofs.Quota.Override
import Tenancy.Proofs.Text.Splitting

/-!
# What annotations say about quotas

Every annotation says one thing on its own: nothing about quotas, something malformed, or
overrides for one quota.  Which of these it is shows in how its key and its value are written.
Resolving many annotations gives each quota what the annotations say about it one by one, in
the order of their keys, so those that say nothing, or nothing that can be read, may come and
go without a change to any override.
-/

namespace Tenancy

/-! ## Texts in JSON -/

/-- The object of some texts under their names. -/
def Json.ofTexts (texts : List (String × String)) : Json :=
  .object (texts.map fun entry => (entry.1, .text entry.2))

/-- What is read as a map of texts is the object of some texts. -/
theorem Json.textMap?_eq_some_iff {json : Json} {map : SortedMap String} :
    json.textMap? = some map ↔ ∃ texts, json = ofTexts texts ∧ map = SortedMap.ofList texts := by
  have each {members : List (String × Json)} {texts : List (String × String)} :
      (members.mapM fun member => (text? member.2).map fun value => (member.1, value)) =
        some texts ↔ members = texts.map fun entry => (entry.1, .text entry.2) := by
    rw [mapM_eq_some_iff]
    induction members generalizing texts with
    | nil => cases texts <;> simp
    | cons member members ih =>
        obtain ⟨name, json⟩ := member
        cases texts with
        | nil => simp
        | cons entry texts =>
            rw [List.map_cons, List.map_cons, List.map_cons, List.cons.injEq, List.cons.injEq, ih]
            cases json <;> simp [text?, Prod.ext_iff]
  cases json with
  | object members =>
      simp only [textMap?, mapOf?_object, Option.map_eq_some_iff, each, ofTexts, object.injEq,
        eq_comm (a := map)]
  | _ => simp [textMap?, mapOf?, object?, ofTexts]

namespace OverrideResolver

/-! ## One annotation -/

/-- What an annotation says. -/
inductive Reading where
  | unrelated
  | malformed (fault : OverrideFault)
  | overrides (quota : String) (limits : List LimitOverride)

namespace Reading

/-- Whether an annotation is malformed. -/
def isMalformed : Reading → Bool
  | .malformed _ => true
  | _ => false

/-- Whether an annotation says something about a quota. -/
def isOverrides : Reading → Bool
  | .overrides .. => true
  | _ => false

/-- What is wrong with an annotation. -/
def faults : Reading → List OverrideFault
  | .malformed fault => [fault]
  | _ => []

theorem faults_eq_nil_iff (said : Reading) : said.faults = [] ↔ said.isMalformed = false := by
  cases said <;> simp [faults, isMalformed]

/-- The overrides that an annotation holds. -/
def limits : Reading → List LimitOverride
  | .overrides _ limits => limits
  | _ => []

/-- What an annotation says about a quota. -/
def limitsFor (quota : String) : Reading → List LimitOverride
  | .overrides name limits => if name = quota then limits else []
  | _ => []

theorem mem_limits_of_mem_limitsFor {said : Reading} {quota : String} {override : LimitOverride}
    (listed : override ∈ said.limitsFor quota) : override ∈ said.limits := by
  cases said with
  | overrides name limits =>
      rw [limitsFor] at listed
      split at listed
      next => exact listed
      next => cases listed
  | unrelated => cases listed
  | malformed => cases listed

end Reading

/-- A resource is one of a storage class. -/
def IsOfStorageClass (resource : String) : Prop :=
  ∃ before after, resource = before ++ "storageclass.storage.k8s.io" ++ after

/-- A field with slashes for its underscores. -/
def withSlashes (field : String) : String :=
  String.ofList (field.toList.map fun char => if char = '_' then '/' else char)

theorem occursIn_iff {part chars : List Char} : occursIn part chars = true ↔ part <:+: chars := by
  induction chars with
  | nil => simp [occursIn]
  | cons char rest ih =>
      rw [occursIn, Bool.or_eq_true, ih, List.isPrefixOf_iff_prefix, List.infix_cons_iff]

theorem occursIn_toList_iff {part text : String} :
    occursIn part.toList text.toList = true ↔ ∃ before after, text = before ++ part ++ after := by
  rw [occursIn_iff]
  constructor
  · rintro ⟨before, after, split⟩
    refine ⟨String.ofList before, String.ofList after, String.toList_inj.mp ?_⟩
    simpa using split.symm
  · rintro ⟨before, after, rfl⟩
    exact ⟨before.toList, after.toList, by simp⟩

instance : DecidablePred IsOfStorageClass :=
  fun resource => decidable_of_iff
    (occursIn "storageclass.storage.k8s.io".toList resource.toList = true) occursIn_toList_iff

theorem decide_isOfStorageClass (resource : String) :
    decide (IsOfStorageClass resource) = occursIn storageClassResource resource.toList := by
  rw [Bool.eq_iff_iff, decide_eq_true_iff]
  exact occursIn_toList_iff.symm

/-- The limits for storage classes among some texts, by ascending resource. -/
def classLimits (texts : List (String × String)) : List LimitOverride :=
  ((SortedMap.ofList texts).filter fun resource _ => decide (IsOfStorageClass resource)).entries.map
    fun entry => ⟨entry.1, entry.2⟩

/-- What an annotation says, by how it is written. -/
inductive Reads (resolver : OverrideResolver) (key value : String) : Reading → Prop
  | unrelated : (∀ rest, key ≠ resolver.keyPrefix ++ rest) → Reads resolver key value .unrelated
  | noField {name : String} : key = resolver.keyPrefix ++ name → '.' ∉ name.toList →
      Reads resolver key value (.malformed (.malformedKey key))
  | noTexts {quota : String} : key = resolver.keyPrefix ++ (quota ++ "." ++ "storageclasses") →
      '.' ∉ quota.toList → (∀ texts, Json.parse? value ≠ some (.ofTexts texts)) →
      Reads resolver key value (.malformed (.malformedClasses key))
  | storageClasses {quota : String} {texts : List (String × String)} :
      key = resolver.keyPrefix ++ (quota ++ "." ++ "storageclasses") → '.' ∉ quota.toList →
      Json.parse? value = some (.ofTexts texts) →
      Reads resolver key value (.overrides quota (classLimits texts))
  | field {quota field : String} : key = resolver.keyPrefix ++ (quota ++ "." ++ field) →
      '.' ∉ quota.toList → field ≠ "storageclasses" →
      Reads resolver key value (.overrides quota [⟨withSlashes field, value⟩])

section Contribution

variable {resolver : OverrideResolver} {key value quota field : String}

theorem storageClassLimits?_of_texts {texts : List (String × String)}
    (isParsed : Json.parse? value = some (.ofTexts texts)) :
    storageClassLimits? value = some (classLimits texts) := by
  have isRead := Json.textMap?_eq_some_iff.mpr ⟨texts, rfl, rfl⟩
  simp only [storageClassLimits?, isParsed, isRead, Option.bind_eq_bind, Option.bind_some,
    classLimits, SortedMap.filter, decide_isOfStorageClass]
  rfl

theorem storageClassLimits?_eq_none
    (noTexts : ∀ texts, Json.parse? value ≠ some (.ofTexts texts)) :
    storageClassLimits? value = none := by
  rw [storageClassLimits?]
  cases isParsed : Json.parse? value with
  | none => rfl
  | some json =>
      cases isRead : json.textMap? with
      | none => simp [isRead]
      | some map =>
          obtain ⟨texts, rfl, -⟩ := Json.textMap?_eq_some_iff.mp isRead
          exact absurd isParsed (noTexts texts)

theorem contribution_of_unrelated (unrelated : ∀ rest, key ≠ resolver.keyPrefix ++ rest) :
    resolver.contribution key value = .ok none := by
  have noPrefix : resolver.keyPrefix.toList.isPrefixOf key.toList = false := by
    rw [← Bool.not_eq_true, List.isPrefixOf_iff_prefix]
    rintro ⟨rest, split⟩
    refine unrelated (String.ofList rest) (String.toList_inj.mp ?_)
    simpa using split.symm
  simp [contribution, noPrefix]

/-- A key with the prefix is looked at behind it. -/
theorem isPrefixOf_append (front back : String) :
    front.toList.isPrefixOf (front ++ back).toList = true := by
  rw [String.toList_append]
  exact List.isPrefixOf_iff_prefix.mpr (List.prefix_append _ _)

theorem drop_append (front back : String) :
    (front ++ back).toList.drop front.toList.length = back.toList := by
  rw [String.toList_append, List.drop_left]

theorem contribution_of_noField {name : String} (noDot : '.' ∉ name.toList) :
    resolver.contribution (resolver.keyPrefix ++ name) value =
      .error (.malformedKey (resolver.keyPrefix ++ name)) := by
  simp only [contribution, isPrefixOf_append, drop_append]
  simp [noDot]

section Field

variable (noDot : '.' ∉ quota.toList)
include noDot

/-- Behind the prefix stands the name of a quota up to the first dot, and then a field. -/
theorem split_field (field : String) :
    (quota ++ "." ++ field).toList.contains '.' = true ∧
      (quota ++ "." ++ field).toList.takeWhile (· ≠ '.') = quota.toList ∧
      ((quota ++ "." ++ field).toList.dropWhile (· ≠ '.')).drop 1 = field.toList := by
  have chars : (quota ++ "." ++ field).toList = quota.toList ++ '.' :: field.toList := by simp
  rw [chars, takeWhile_append_mark noDot, dropWhile_append_mark noDot]
  exact ⟨List.contains_iff_mem.mpr (by simp), rfl, rfl⟩

theorem contribution_of_field (notReserved : field ≠ "storageclasses") :
    resolver.contribution (resolver.keyPrefix ++ (quota ++ "." ++ field)) value =
      .ok (some (quota, [⟨withSlashes field, value⟩])) := by
  obtain ⟨hasDot, isQuota, isField⟩ := split_field noDot field
  have notReserved : field.toList ≠ storageClassesField :=
    fun same => notReserved (String.toList_inj.mp same)
  simp only [contribution, isPrefixOf_append, drop_append, hasDot, isQuota, isField,
    if_neg notReserved, String.ofList_toList]
  rfl

theorem contribution_of_storageClasses {limits : List LimitOverride}
    (isRead : storageClassLimits? value = some limits) :
    resolver.contribution (resolver.keyPrefix ++ (quota ++ "." ++ "storageclasses")) value =
      .ok (some (quota, limits)) := by
  obtain ⟨hasDot, isQuota, isField⟩ := split_field noDot "storageclasses"
  simp only [contribution, isPrefixOf_append, drop_append, hasDot, isQuota, isField, isRead,
    String.ofList_toList]
  rfl

theorem contribution_of_noTexts (isRead : storageClassLimits? value = none) :
    resolver.contribution (resolver.keyPrefix ++ (quota ++ "." ++ "storageclasses")) value =
      .error (.malformedClasses (resolver.keyPrefix ++ (quota ++ "." ++ "storageclasses"))) := by
  obtain ⟨hasDot, isQuota, isField⟩ := split_field noDot "storageclasses"
  simp only [contribution, isPrefixOf_append, drop_append, hasDot, isQuota, isField, isRead]
  rfl

end Field

end Contribution

/-! ## Reading every annotation -/

/-- What is read of an annotation. -/
def reading (resolver : OverrideResolver) (key value : String) : Reading :=
  match resolver.contribution key value with
  | .error fault => .malformed fault
  | .ok none => .unrelated
  | .ok (some (quota, limits)) => .overrides quota limits

section Reads

variable {resolver : OverrideResolver} {key value : String}

theorem Reads.reading_eq {said : Reading} (reads : resolver.Reads key value said) :
    resolver.reading key value = said := by
  rw [reading]
  cases reads with
  | unrelated unrelated => rw [contribution_of_unrelated unrelated]
  | noField isKey noDot =>
      subst isKey
      rw [contribution_of_noField noDot]
  | noTexts isKey noDot noTexts =>
      subst isKey
      rw [contribution_of_noTexts noDot (storageClassLimits?_eq_none noTexts)]
  | storageClasses isKey noDot isParsed =>
      subst isKey
      rw [contribution_of_storageClasses noDot (storageClassLimits?_of_texts isParsed)]
  | field isKey noDot notReserved =>
      subst isKey
      rw [contribution_of_field noDot notReserved]

/-- Every annotation is written in one of the ways. -/
theorem exists_reads (resolver : OverrideResolver) (key value : String) :
    ∃ said, resolver.Reads key value said := by
  by_cases related : ∃ rest, key = resolver.keyPrefix ++ rest
  · obtain ⟨name, isKey⟩ := related
    by_cases hasDot : '.' ∈ name.toList
    · obtain ⟨quota, field, split, noDot⟩ := List.eq_append_cons_of_mem hasDot
      have isName : name = String.ofList quota ++ "." ++ String.ofList field :=
        String.toList_inj.mp (by simpa using split)
      have isQuota : '.' ∉ (String.ofList quota).toList := by simpa using noDot
      rw [isName] at isKey
      by_cases reserved : String.ofList field = "storageclasses"
      · rw [reserved] at isKey
        by_cases hasTexts : ∃ texts, Json.parse? value = some (.ofTexts texts)
        · obtain ⟨texts, isParsed⟩ := hasTexts
          exact ⟨_, .storageClasses isKey isQuota isParsed⟩
        · exact ⟨_, .noTexts isKey isQuota (not_exists.mp hasTexts)⟩
      · exact ⟨_, .field isKey isQuota reserved⟩
    · exact ⟨_, .noField isKey hasDot⟩
  · exact ⟨_, .unrelated (not_exists.mp related)⟩

/-- What an annotation says is what is read of it. -/
theorem reads_iff {said : Reading} :
    resolver.Reads key value said ↔ resolver.reading key value = said := by
  refine ⟨Reads.reading_eq, ?_⟩
  rintro rfl
  obtain ⟨said, reads⟩ := resolver.exists_reads key value
  rwa [reads.reading_eq]

/-- Something holds of all that is said if it holds of what each annotation says. -/
theorem forall_mem_iff_of_forall₂_reads {entries : List (String × String)}
    {readings : List Reading}
    (areRead : List.Forall₂ (fun entry => resolver.Reads entry.1 entry.2) entries readings)
    {holds : Reading → Prop} :
    (∀ said ∈ readings, holds said) ↔
      ∀ entry ∈ entries, ∀ said, resolver.Reads entry.1 entry.2 said → holds said := by
  induction areRead with
  | nil => simp
  | cons reads _ inductionHypothesis =>
      rw [List.forall_mem_cons, List.forall_mem_cons, inductionHypothesis]
      apply and_congr_left
      intro _
      constructor
      · intro isHeld said alsoReads
        rwa [← alsoReads.reading_eq, reads.reading_eq]
      · intro areHeld
        exact areHeld _ reads

theorem faults_eq (entry : String × String) :
    resolver.faults entry = (resolver.reading entry.1 entry.2).faults := by
  rw [faults, reading]
  rcases resolver.contribution entry.1 entry.2 with fault | _ | ⟨quota, limits⟩ <;> rfl

theorem overridesFor_eq (quota : String) (entry : String × String) :
    resolver.overridesFor quota entry = (resolver.reading entry.1 entry.2).limitsFor quota := by
  rw [overridesFor, reading]
  rcases resolver.contribution entry.1 entry.2 with fault | _ | ⟨name, limits⟩ <;> rfl

end Reads

/-! ## Resolving many annotations -/

section Resolve

variable (resolver : OverrideResolver) (annotations : SortedMap String)

/-- What annotations say, by ascending key. -/
def readings : List Reading := annotations.entries.map fun entry => resolver.reading entry.1 entry.2

theorem forall₂_reads_readings :
    List.Forall₂ (fun entry => resolver.Reads entry.1 entry.2) annotations.entries
      (resolver.readings annotations) := by
  rw [readings, List.forall₂_map_right_iff]
  exact List.forall₂_same.mpr fun _ _ => reads_iff.mpr rfl

/-- What is reported in resolving annotations is what is wrong with each of them. -/
theorem causes_resolve_readings :
    (resolver.resolve annotations).2.causes =
      (resolver.readings annotations).flatMap Reading.faults := by
  rw [causes_resolve, readings, List.flatMap_map]
  exact List.flatMap_congr fun entry _ => faults_eq entry

/-- The overrides for a quota are what the annotations say about it. -/
theorem getD_get?_resolve_readings (quota : String) :
    ((resolver.resolve annotations).1.get? quota).getD [] =
      (resolver.readings annotations).flatMap (Reading.limitsFor quota) := by
  rw [getD_get?_resolve, readings, List.flatMap_map]
  exact List.flatMap_congr fun entry _ => overridesFor_eq quota entry

/-- A quota without an override is left out. -/
theorem get?_resolve_ne_some_nil (quota : String) :
    (resolver.resolve annotations).1.get? quota ≠ some [] := by
  rw [resolve]
  dsimp only
  rw [SortedMap.get?_filter, ne_eq, Option.filter_eq_some_iff]
  simp

/-- A quota has overrides exactly if the annotations say something about it. -/
theorem get?_resolve_ne_none_iff (quota : String) :
    (resolver.resolve annotations).1.get? quota ≠ none ↔
      (resolver.readings annotations).flatMap (Reading.limitsFor quota) ≠ [] := by
  rw [← getD_get?_resolve_readings]
  have notNil := resolver.get?_resolve_ne_some_nil annotations quota
  cases found : (resolver.resolve annotations).1.get? quota with
  | none => simp
  | some limits =>
      rw [found] at notNil
      simpa using notNil

theorem size_resolve :
    (resolver.resolve annotations).2.size =
      (resolver.readings annotations).countP Reading.isMalformed := by
  rw [Report.size, causes_resolve_readings]
  induction resolver.readings annotations with
  | nil => rfl
  | cons said others ih =>
      rw [List.flatMap_cons, List.length_append, List.countP_cons, ih, Nat.add_comm]
      cases said <;> rfl

/-- Annotations without overrides can be left out. -/
theorem getD_get?_resolve_filter (quota : String) :
    ((resolver.resolve annotations).1.get? quota).getD [] =
      (annotations.filter fun key value =>
        (resolver.reading key value).isOverrides).entries.flatMap
          (resolver.overridesFor quota) := by
  rw [getD_get?_resolve, SortedMap.filter]
  symm
  refine flatMap_filter_of_eq_nil fun entry _ dropped => ?_
  rw [overridesFor_eq]
  cases said : resolver.reading entry.1 entry.2 with
  | overrides quota limits =>
      rw [said] at dropped
      cases dropped
  | _ => rfl

variable {annotations}

/-- Only the annotations that say something about a quota matter to the overrides. -/
theorem resolve_eq_of_overrides {other : SortedMap String}
    (same : ∀ key value quota limits, resolver.Reads key value (.overrides quota limits) →
      (annotations.get? key = some value ↔ other.get? key = some value)) :
    (resolver.resolve annotations).1 = (resolver.resolve other).1 := by
  have kept : (annotations.filter fun key value => (resolver.reading key value).isOverrides) =
      other.filter fun key value => (resolver.reading key value).isOverrides := by
    refine SortedMap.ext_get? fun key => ?_
    ext value
    rw [SortedMap.get?_filter, SortedMap.get?_filter, Option.filter_eq_some_iff,
      Option.filter_eq_some_iff]
    refine and_congr_left fun isOverrides => ?_
    cases said : resolver.reading key value with
    | overrides quota limits => exact same key value quota limits (reads_iff.mpr said)
    | _ =>
        rw [said] at isOverrides
        cases isOverrides
  refine SortedMap.ext_get? fun quota => ?_
  rw [SortedMap.get?_eq_filter_getD (resolver.get?_resolve_ne_some_nil annotations quota),
    SortedMap.get?_eq_filter_getD (resolver.get?_resolve_ne_some_nil other quota),
    getD_get?_resolve_filter, getD_get?_resolve_filter, kept]

end Resolve

/-- The prefix of a resolver is the one that it is made with, ended by a slash. -/
theorem keyPrefix_ofPrefix (text : String) :
    (ofPrefix text).keyPrefix = if text.toList.getLast? = some '/' then text else text ++ "/" := by
  simp only [ofPrefix, beq_iff_eq]
  split <;> rfl

/-- Annotations are resolved one by one.  Each is read in exactly one way by how it is written;
a quota gets what the annotations say about it, in the order of their keys, and is left out if
they say nothing; one fault is reported for each that is malformed; and only those that say
something about a quota matter to the overrides. -/
theorem resolve_ofPrefix (text : String) (annotations : SortedMap String) :
    let resolver := ofPrefix text
    let overrides := (resolver.resolve annotations).1
    resolver.keyPrefix = (if text.toList.getLast? = some '/' then text else text ++ "/") ∧
      (∀ key value, ∃! said, resolver.Reads key value said) ∧
      (∃ readings, List.Forall₂ (fun entry => resolver.Reads entry.1 entry.2)
          annotations.entries readings ∧
        (∀ quota, (overrides.get? quota).getD [] =
          readings.flatMap (Reading.limitsFor quota)) ∧
        (resolver.resolve annotations).2.size = readings.countP Reading.isMalformed) ∧
      (∀ quota, overrides.get? quota ≠ some []) ∧
      ∀ other : SortedMap String,
        (∀ key value quota limits, resolver.Reads key value (.overrides quota limits) →
          (annotations.get? key = some value ↔ other.get? key = some value)) →
        (resolver.resolve other).1 = overrides := by
  intro resolver overrides
  refine ⟨keyPrefix_ofPrefix text, fun key value => ?_, ?_, ?_, ?_⟩
  · refine ⟨resolver.reading key value, reads_iff.mpr rfl, fun said reads => ?_⟩
    exact reads.reading_eq.symm
  · exact ⟨resolver.readings annotations, resolver.forall₂_reads_readings annotations,
      resolver.getD_get?_resolve_readings annotations, resolver.size_resolve annotations⟩
  · exact resolver.get?_resolve_ne_some_nil annotations
  · exact fun other same => (resolver.resolve_eq_of_overrides same).symm

example : resolve (.ofPrefix "quota") (.ofList [("note", "x"), ("quota/a.nvidia.com_gpu", "1"),
      ("quota/a.storageclasses",
        "\x7b\"ssd.storageclass.storage.k8s.io/pods\": \"2\", \"cpu\": \"3\"\x7d"),
      ("quota/b.storageclasses", "[]"), ("quota/broken", "1")]) =
    (.ofList [("a", [⟨"nvidia.com/gpu", "1"⟩, ⟨"ssd.storageclass.storage.k8s.io/pods", "2"⟩])],
      ⟨[.malformedClasses "quota/b.storageclasses", .malformedKey "quota/broken"]⟩) := by
  decide +kernel

end OverrideResolver

end Tenancy
