import Mathlib.Data.List.Perm.Basic
import Tenancy.Proofs.AllowList
import Tenancy.Proofs.SortedMap

/-!
# Allow lists that grow

Pairs of patterns are offered to a list that starts empty.  An offer is accepted if both patterns
can be read, and leaves the list as it is otherwise.  So whatever is offered and in whatever
order, the list allows what one of the accepted pairs allows, and never less than before.
-/

namespace Tenancy.AllowList

/-! ## Offers -/

/-- Offer a pair of patterns to the list that is kept.  What fails ends the offer there and
leaves the list as it is by then. -/
def offer (pair : String × String) : ExceptT Fault (StateM AllowList) Unit := do
  let key ← anchored .key pair.1
  let value ← anchored .value pair.2
  modify fun list => ⟨list.rules ++ [⟨key, value⟩]⟩

/-- Offer several pairs, one after the other, and note what comes of each. -/
def offerEach (pairs : List (String × String)) : StateM AllowList (List (Except Fault Unit)) :=
  pairs.mapM fun pair => (offer pair).run

/-- What comes of some offers to the empty list, and the list that they leave. -/
def grown (pairs : List (String × String)) : List (Except Fault Unit) × AllowList :=
  (offerEach pairs).run empty

/-- A pair is one of those that are accepted when some are offered to the empty list. -/
def Accepts (pairs : List (String × String)) (pair : String × String) : Prop :=
  (pair, .ok ()) ∈ pairs.zip (grown pairs).1

/-- A pattern can be read and matches a text. -/
def Fits (side : Side) (pattern text : String) : Prop :=
  ∃ regex, anchored side pattern = .ok regex ∧ regex.isMatch text = true

/-! ## What comes of an offer -/

/-- An offer adds a pair where that succeeds, and leaves the list alone where it fails. -/
theorem run_offer (list : AllowList) (pair : String × String) :
    (offer pair).run.run list =
      match list.add pair.1 pair.2 with
      | .ok added => (.ok (), added)
      | .error fault => (.error fault, list) := by
  unfold offer add
  cases anchored .key pair.1 with
  | error => rfl
  | ok =>
      cases anchored .value pair.2 with
      | error => rfl
      | ok => rfl

/-- What comes of an offer, whatever the list. -/
def outcome (pair : String × String) : Except Fault Unit :=
  (readRule pair.1 pair.2).map fun _ => ()

/-- The rules that are added when some pairs are offered, whatever the list. -/
def addedRules (pairs : List (String × String)) : List AllowRule :=
  pairs.flatMap fun pair => (readRule pair.1 pair.2).toOption.toList

theorem outcome_eq_ok_iff {pair : String × String} :
    outcome pair = .ok () ↔ ∃ rule, readRule pair.1 pair.2 = .ok rule := by
  unfold outcome
  cases readRule pair.1 pair.2 with
  | error => simp [Except.map]
  | ok => simp [Except.map]

theorem mem_addedRules_iff {pairs : List (String × String)} {rule : AllowRule} :
    rule ∈ addedRules pairs ↔ ∃ pair ∈ pairs, readRule pair.1 pair.2 = .ok rule := by
  have isRead (pair : String × String) :
      rule ∈ (readRule pair.1 pair.2).toOption.toList ↔ readRule pair.1 pair.2 = .ok rule := by
    cases readRule pair.1 pair.2 with
    | error => simp [Except.toOption]
    | ok => simp [Except.toOption, eq_comm]
  simp only [addedRules, List.mem_flatMap, isRead]

theorem run_offer_eq (list : AllowList) (pair : String × String) :
    (offer pair).run.run list = (outcome pair, ⟨list.rules ++ addedRules [pair]⟩) := by
  rw [run_offer, add_eq, outcome, addedRules, List.flatMap_singleton]
  cases readRule pair.1 pair.2 with
  | error => simp [Except.map, Except.toOption]
  | ok => simp [Except.map, Except.toOption]

/-- Several offers add the rules of all pairs that can be read, in their order. -/
theorem run_offerEach (list : AllowList) (pairs : List (String × String)) :
    (offerEach pairs).run list = (pairs.map outcome, ⟨list.rules ++ addedRules pairs⟩) := by
  induction pairs generalizing list with
  | nil =>
      rw [addedRules, List.flatMap_nil, List.append_nil]
      rfl
  | cons pair pairs ih =>
      have firstThenRest : (offerEach (pair :: pairs)).run list =
          let (first, next) := (offer pair).run.run list
          let (others, last) := (offerEach pairs).run next
          (first :: others, last) := by
        simp only [offerEach, List.mapM_cons]
        rfl
      rw [firstThenRest, run_offer_eq]
      dsimp only
      rw [ih]
      simp [addedRules]

/-! ## The list that is left -/

section Grown

variable {pairs : List (String × String)}

theorem grown_eq (pairs : List (String × String)) :
    grown pairs = (pairs.map outcome, ⟨addedRules pairs⟩) :=
  run_offerEach empty pairs

theorem zip_grown (pairs : List (String × String)) :
    pairs.zip (grown pairs).1 = pairs.map fun pair => (pair, outcome pair) := by
  have zipped : (pairs.map id).zip (pairs.map outcome) = _ := List.zip_map'
  rw [List.map_id] at zipped
  rw [grown_eq]
  exact zipped

/-- The pairs that are accepted are those of the offered ones that can be read. -/
theorem accepts_iff {pair : String × String} :
    Accepts pairs pair ↔ pair ∈ pairs ∧ ∃ rule, readRule pair.1 pair.2 = .ok rule := by
  simp only [Accepts, zip_grown, List.mem_map, Prod.mk.injEq, ← outcome_eq_ok_iff]
  constructor
  · rintro ⟨_, member, rfl, isOk⟩
    exact ⟨member, isOk⟩
  · rintro ⟨member, isOk⟩
    exact ⟨pair, member, rfl, isOk⟩

/-- As many rules are kept as offers are accepted. -/
theorem size_grown (pairs : List (String × String)) :
    (grown pairs).2.size = (grown pairs).1.countP (·.isOk) := by
  rw [grown_eq, size]
  induction pairs with
  | nil => rfl
  | cons pair pairs ih =>
      dsimp only at ih ⊢
      rw [addedRules, List.flatMap_cons, ← addedRules, List.length_append, ih, List.map_cons,
        List.countP_cons, outcome]
      cases readRule pair.1 pair.2 with
      | error => simp [Except.map, Except.toOption, Except.isOk, Except.toBool]
      | ok => simp [Except.map, Except.toOption, Except.isOk, Except.toBool, add_comm]

theorem validate_eq_ok_iff {list : AllowList} {key value : String} :
    list.validate key value = .ok () ↔
      ∃ rule ∈ list.rules, rule.key.isMatch key = true ∧ rule.value.isMatch value = true := by
  simp [validate, allows]

/-- The list that is left allows what both patterns of one accepted pair match. -/
theorem validate_grown_eq_ok_iff {key value : String} :
    (grown pairs).2.validate key value = .ok () ↔
      ∃ pair, Accepts pairs pair ∧ Fits .key pair.1 key ∧ Fits .value pair.2 value := by
  simp only [validate_eq_ok_iff, grown_eq, mem_addedRules_iff, accepts_iff]
  constructor
  · rintro ⟨rule, ⟨pair, member, isRead⟩, keyMatches, valueMatches⟩
    obtain ⟨isKey, isValue⟩ := readRule_eq_ok_iff.mp isRead
    exact ⟨pair, ⟨member, rule, isRead⟩, ⟨_, isKey, keyMatches⟩, ⟨_, isValue, valueMatches⟩⟩
  · rintro ⟨pair, ⟨member, -⟩, ⟨key, isKey, keyMatches⟩, ⟨value, isValue, valueMatches⟩⟩
    exact ⟨⟨key, value⟩, ⟨pair, member, readRule_eq_ok_iff.mpr ⟨isKey, isValue⟩⟩, keyMatches,
      valueMatches⟩

/-- More offers take nothing back. -/
theorem validate_grown_append {key value : String}
    (allowed : (grown pairs).2.validate key value = .ok ()) (more : List (String × String)) :
    (grown (pairs ++ more)).2.validate key value = .ok () := by
  simp only [validate_eq_ok_iff, grown_eq, mem_addedRules_iff] at allowed ⊢
  obtain ⟨rule, ⟨pair, member, isRead⟩, bothMatch⟩ := allowed
  exact ⟨rule, ⟨pair, List.mem_append_left more member, isRead⟩, bothMatch⟩

/-- The order of the offers does not matter to what is allowed. -/
theorem allows_grown_perm {others : List (String × String)} (reordered : pairs.Perm others) :
    (grown pairs).2.allows = (grown others).2.allows := by
  funext key value
  simp only [allows, grown_eq]
  exact (reordered.flatMap_right _).any_eq

end Grown

/-! ## Checking a map -/

section Checking

variable (list : AllowList) (map : SortedMap String)

/-- What fails in the checks of some entries is collected behind what has failed before. -/
theorem foldl_collect_validate (entries : List (String × String)) (report : Report Fault) :
    entries.foldl (fun report entry => (report.collect (list.validate entry.1 entry.2)).2) report =
      ⟨report.causes ++ (entries.filter fun (key, value) => !list.allows key value).map
        fun (key, value) => .notAllowed key value⟩ := by
  induction entries generalizing report with
  | nil => simp
  | cons entry entries ih =>
      rw [List.foldl_cons, ih, validate]
      cases allowed : list.allows entry.1 entry.2 with
      | true => simp [Report.collect, allowed]
      | false => simp [Report.collect, Report.add, allowed]

/-- A map is checked entry by entry. -/
theorem validateAll_eq_foldl :
    list.validateAll map =
      map.entries.foldl (fun report entry => (report.collect (list.validate entry.1 entry.2)).2)
        .empty := by
  rw [foldl_collect_validate]
  rfl

theorem not_allows_iff {entry : String × String} :
    (!list.allows entry.1 entry.2) = true ↔ list.validate entry.1 entry.2 ≠ .ok () := by
  rw [validate]
  cases list.allows entry.1 entry.2 <;> simp

/-- The report on a map lists the entries that are not allowed, by ascending key. -/
theorem exists_enumerates_validateAll : ∃ failing,
    Enumerates Prod.fst failing (fun entry => map.get? entry.1 = some entry.2 ∧
      list.validate entry.1 entry.2 ≠ .ok ()) ∧
    (list.validateAll map).causes = failing.map fun entry => .notAllowed entry.1 entry.2 := by
  refine ⟨map.entries.filter fun entry => !list.allows entry.1 entry.2, ?_, rfl⟩
  exact map.enumerates_entries.filter fun entry => list.not_allows_iff

theorem isEmpty_validateAll_iff :
    (list.validateAll map).isEmpty = true ↔
      ∀ key value, map.get? key = some value → list.validate key value = .ok () := by
  obtain ⟨failing, listing, isCauses⟩ := list.exists_enumerates_validateAll map
  rw [Report.isEmpty, isCauses, List.isEmpty_map, List.isEmpty_iff, listing.eq_nil_iff]
  constructor
  · intro noneFails key value stored
    by_contra fails
    exact noneFails (key, value) ⟨stored, fails⟩
  · rintro allPass ⟨key, value⟩ ⟨stored, fails⟩
    exact fails (allPass key value stored)

end Checking

/-- Pairs are offered to the empty list.  It then has as many rules as offers were accepted, and
an offer that fails has left it as it was.  It allows what both patterns of one accepted pair
match, still does after more offers, and would do after the same offers in another order, each
with the same outcome.  A map is checked entry by entry, and what is not allowed is reported once
each by ascending key. -/
theorem grown_exact (pairs : List (String × String)) :
    (grown pairs).2.size = (grown pairs).1.countP (·.isOk) ∧
      (∀ list pair, (offer pair).run.run list =
        match list.add pair.1 pair.2 with
        | .ok added => (.ok (), added)
        | .error fault => (.error fault, list)) ∧
      (∀ key value, (grown pairs).2.validate key value = .ok () ↔
        ∃ pair, Accepts pairs pair ∧ Fits .key pair.1 key ∧ Fits .value pair.2 value) ∧
      (∀ more key value, (grown pairs).2.validate key value = .ok () →
        (grown (pairs ++ more)).2.validate key value = .ok ()) ∧
      (∀ others, pairs.Perm others →
        (pairs.zip (grown pairs).1).Perm (others.zip (grown others).1) ∧
          (grown pairs).2.size = (grown others).2.size ∧
          (grown pairs).2.validate = (grown others).2.validate ∧
          (grown pairs).2.validateAll = (grown others).2.validateAll) ∧
      ∀ map : SortedMap String,
        ((grown pairs).2.validateAll map = map.entries.foldl
          (fun report entry => (report.collect ((grown pairs).2.validate entry.1 entry.2)).2)
          .empty) ∧
        (((grown pairs).2.validateAll map).isEmpty = true ↔
          ∀ key value, map.get? key = some value → (grown pairs).2.validate key value = .ok ()) ∧
        ∃ failing, Enumerates Prod.fst failing (fun entry => map.get? entry.1 = some entry.2 ∧
            (grown pairs).2.validate entry.1 entry.2 ≠ .ok ()) ∧
          ((grown pairs).2.validateAll map).causes =
            failing.map fun entry => .notAllowed entry.1 entry.2 := by
  refine ⟨size_grown pairs, run_offer, fun key value => validate_grown_eq_ok_iff,
    fun more key value allowed => validate_grown_append allowed more,
    fun others reordered => ?_, fun map => ?_⟩
  · have sameAllows := allows_grown_perm reordered
    refine ⟨?_, ?_, ?_, ?_⟩
    · rw [zip_grown, zip_grown]
      exact reordered.map _
    · rw [grown_eq, grown_eq]
      exact (reordered.flatMap_right _).length_eq
    · funext key value
      rw [validate, validate, sameAllows]
    · funext map
      rw [validateAll, validateAll, sameAllows]
  · exact ⟨validateAll_eq_foldl _ map, isEmpty_validateAll_iff _ map,
      exists_enumerates_validateAll _ map⟩

example : ∃ outcomes list, grown [("a", "1"), (".*", "["), ("b", "2")] = (outcomes, list) ∧
    list.size = 2 ∧ list.allows "b" "2" = true ∧ list.allows "a" "2" = false :=
  ⟨_, _, rfl, rfl, rfl, rfl⟩

end Tenancy.AllowList
