import Mathlib.Data.List.Perm.Basic
import Tenancy.Bypass
import Tenancy.Proofs.Cluster.Failure
import Tenancy.Proofs.Cluster.Snapshot

/-!
# Skippers inside skippers

A choice among skippers may hold other choices, at any depth.  It asks the single checks inside it
from left to right and ends at the first that skips or fails, so neither the answer nor the
questions that are put depend on how the checks are grouped.  If no check fails, the answer does
not depend on their order either.
-/

namespace Tenancy

namespace Outcome

/-! ## Checks in turn -/

/-- What comes of checks that are made in turn, given what would come of each.  If none of them
skips or fails, all are made.  If one does, the first such decides, and those behind it are not
made. -/
inductive ComesTo : List (Outcome Bool) → Outcome Bool → Prop
  | pass {outcomes : List (Outcome Bool)} :
      (∀ outcome ∈ outcomes, outcome.result = .ok false) →
      ComesTo outcomes ⟨outcomes.flatMap calls, .ok false⟩
  | decide {passed rest : List (Outcome Bool)} {outcome : Outcome Bool} :
      (∀ earlier ∈ passed, earlier.result = .ok false) → outcome.result ≠ .ok false →
      ComesTo (passed ++ outcome :: rest) ⟨passed.flatMap calls ++ outcome.calls, outcome.result⟩

/-- What comes of no check. -/
def noCheck : Outcome Bool := ⟨[], .ok false⟩

/-- Make a second check unless the first one skips or fails. -/
def orElse (first second : Outcome Bool) : Outcome Bool :=
  match first.result with
  | .ok false => ⟨first.calls ++ second.calls, second.result⟩
  | _ => first

/-- Make checks in turn until one skips or fails. -/
def inTurn (outcomes : List (Outcome Bool)) : Outcome Bool := outcomes.foldr orElse noCheck

theorem decides_of_error {outcome : Outcome Bool} {failure : Failure}
    (failed : outcome.result = .error failure) : outcome.result ≠ .ok false := by
  rw [failed]
  exact nofun

theorem decides_of_skip {outcome : Outcome Bool} (skips : outcome.result = .ok true) :
    outcome.result ≠ .ok false := by
  rw [skips]
  exact nofun

variable {first : Outcome Bool}

theorem orElse_of_pass (passes : first.result = .ok false) (second : Outcome Bool) :
    first.orElse second = ⟨first.calls ++ second.calls, second.result⟩ := by
  simp only [orElse, passes]

theorem orElse_of_decide (decides : first.result ≠ .ok false) (second : Outcome Bool) :
    first.orElse second = first := by
  unfold orElse
  split
  next passes => exact absurd passes decides
  next => rfl

@[simp]
theorem orElse_noCheck (outcome : Outcome Bool) : outcome.orElse noCheck = outcome := by
  by_cases passes : outcome.result = .ok false
  · rw [orElse_of_pass passes, noCheck, List.append_nil, ← passes]
  · exact orElse_of_decide passes noCheck

/-- It does not matter which of three checks in turn are grouped. -/
theorem orElse_assoc (first second third : Outcome Bool) :
    (first.orElse second).orElse third = first.orElse (second.orElse third) := by
  by_cases firstPasses : first.result = .ok false
  · by_cases secondPasses : second.result = .ok false
    · have bothPass : (first.orElse second).result = .ok false := by
        rw [orElse_of_pass firstPasses, secondPasses]
      rw [orElse_of_pass bothPass, orElse_of_pass firstPasses, orElse_of_pass firstPasses,
        orElse_of_pass secondPasses, List.append_assoc]
    · have decides : (first.orElse second).result ≠ .ok false := by
        rwa [orElse_of_pass firstPasses]
      rw [orElse_of_decide decides, orElse_of_decide secondPasses]
  · rw [orElse_of_decide firstPasses, orElse_of_decide firstPasses,
      orElse_of_decide firstPasses]

theorem inTurn_cons (outcome : Outcome Bool) (rest : List (Outcome Bool)) :
    inTurn (outcome :: rest) = outcome.orElse (inTurn rest) :=
  rfl

theorem inTurn_append (first second : List (Outcome Bool)) :
    inTurn (first ++ second) = (inTurn first).orElse (inTurn second) := by
  induction first with
  | nil => rfl
  | cons outcome rest ih => rw [List.cons_append, inTurn_cons, ih, inTurn_cons, orElse_assoc]

theorem inTurn_of_pass {outcomes : List (Outcome Bool)}
    (allPass : ∀ outcome ∈ outcomes, outcome.result = .ok false) :
    inTurn outcomes = ⟨outcomes.flatMap calls, .ok false⟩ := by
  induction outcomes with
  | nil => rfl
  | cons outcome rest ih =>
      obtain ⟨passes, restPass⟩ := List.forall_mem_cons.mp allPass
      rw [inTurn_cons, orElse_of_pass passes, ih restPass, List.flatMap_cons]

theorem inTurn_of_decide {passed rest : List (Outcome Bool)} {outcome : Outcome Bool}
    (allPass : ∀ earlier ∈ passed, earlier.result = .ok false)
    (decides : outcome.result ≠ .ok false) :
    inTurn (passed ++ outcome :: rest) =
      ⟨passed.flatMap calls ++ outcome.calls, outcome.result⟩ := by
  have passedResult : (inTurn passed).result = .ok false := by rw [inTurn_of_pass allPass]
  rw [inTurn_append, inTurn_cons, orElse_of_decide decides, orElse_of_pass passedResult,
    inTurn_of_pass allPass]

/-- All checks pass, or there is a first one that decides. -/
theorem forall_pass_or_exists_decide (outcomes : List (Outcome Bool)) :
    (∀ outcome ∈ outcomes, outcome.result = .ok false) ∨
      ∃ passed outcome rest, outcomes = passed ++ outcome :: rest ∧
        (∀ earlier ∈ passed, earlier.result = .ok false) ∧ outcome.result ≠ .ok false := by
  induction outcomes with
  | nil => exact .inl (by simp)
  | cons outcome rest ih =>
      by_cases passes : outcome.result = .ok false
      · rcases ih with restPass | ⟨passed, decisive, behind, rfl, passedPass, decides⟩
        · left
          simpa [passes] using restPass
        · right
          exact ⟨outcome :: passed, decisive, behind, rfl, by simpa [passes] using passedPass,
            decides⟩
      · exact .inr ⟨[], outcome, rest, rfl, by simp, passes⟩

theorem comesTo_inTurn (outcomes : List (Outcome Bool)) : ComesTo outcomes (inTurn outcomes) := by
  rcases forall_pass_or_exists_decide outcomes with
    allPass | ⟨passed, outcome, rest, rfl, passedPass, decides⟩
  · rw [inTurn_of_pass allPass]
    exact .pass allPass
  · rw [inTurn_of_decide passedPass decides]
    exact .decide passedPass decides

/-- Checks in turn fail exactly if one fails that none in front of it keeps from being made. -/
theorem result_inTurn_eq_error_iff {outcomes : List (Outcome Bool)} {failure : Failure} :
    (inTurn outcomes).result = .error failure ↔
      ∃ passed outcome rest, outcomes = passed ++ outcome :: rest ∧
        (∀ earlier ∈ passed, earlier.result = .ok false) ∧ outcome.result = .error failure := by
  constructor
  · intro failed
    rcases forall_pass_or_exists_decide outcomes with
      allPass | ⟨passed, outcome, rest, rfl, passedPass, decides⟩
    · rw [inTurn_of_pass allPass] at failed
      cases failed
    · rw [inTurn_of_decide passedPass decides] at failed
      exact ⟨passed, outcome, rest, rfl, passedPass, failed⟩
  · rintro ⟨passed, outcome, rest, rfl, passedPass, failed⟩
    rw [inTurn_of_decide passedPass (decides_of_error failed), failed]

/-- If no check fails, then checks in turn skip exactly if one of them does. -/
theorem exists_result_inTurn {outcomes : List (Outcome Bool)}
    (noneFails : ∀ outcome ∈ outcomes, outcome.result.isOk = true) :
    ∃ skips, (inTurn outcomes).result = .ok skips ∧
      (skips = true ↔ ∃ outcome ∈ outcomes, outcome.result = .ok true) := by
  rcases forall_pass_or_exists_decide outcomes with
    allPass | ⟨passed, outcome, rest, rfl, passedPass, decides⟩
  · refine ⟨false, by rw [inTurn_of_pass allPass], iff_of_false Bool.false_ne_true ?_⟩
    rintro ⟨outcome, member, skips⟩
    rw [allPass outcome member] at skips
    cases skips
  · have member : outcome ∈ passed ++ outcome :: rest := by simp
    have skips : outcome.result = .ok true := by
      have answers := noneFails outcome member
      cases answered : outcome.result with
      | error failure => simp [answered] at answers
      | ok skips =>
          cases skips with
          | true => rfl
          | false => exact absurd answered decides
    refine ⟨true, by rw [inTurn_of_decide passedPass decides, skips], ?_⟩
    exact iff_of_true rfl ⟨outcome, member, skips⟩

end Outcome

namespace Skipper

/-! ## The checks inside a skipper -/

mutual

/-- The single checks inside a skipper, from left to right. -/
def leaves : Skipper → List (Request → Lookup Bool)
  | .leaf check => [check]
  | .anyOf children => leavesOf children

/-- The single checks inside several skippers, from left to right. -/
def leavesOf : List Skipper → List (Request → Lookup Bool)
  | [] => []
  | child :: rest => child.leaves ++ leavesOf rest

end

/-- What would come of each of some checks on a request. -/
def outcomesOf (request : Request) (cluster : Cluster) (checks : List (Request → Lookup Bool)) :
    List (Outcome Bool) :=
  checks.map fun check => check request cluster

theorem outcomesOf_append {request : Request} {cluster : Cluster}
    (first second : List (Request → Lookup Bool)) :
    outcomesOf request cluster (first ++ second) =
      outcomesOf request cluster first ++ outcomesOf request cluster second :=
  List.map_append

section Turn

variable (request : Request) (cluster : Cluster)

/-- A choice asks its first child, and the others if that one does not decide. -/
theorem skipAny_cons (child : Skipper) (rest : List Skipper) :
    skipAny request (child :: rest) cluster =
      (child.skip request cluster).orElse (skipAny request rest cluster) := by
  rw [skipAny]
  cases asked : (child.skip request cluster).result with
  | error failure =>
      rw [Outcome.orElse_of_decide (Outcome.decides_of_error asked),
        Lookup.bind_of_result_eq_error asked, ← asked]
  | ok skips =>
      rw [Lookup.bind_of_result_eq_ok asked]
      cases skips with
      | true =>
          have nothingAsked : ((Pure.pure true : Lookup Bool) cluster).calls = [] := rfl
          rw [Outcome.orElse_of_decide (Outcome.decides_of_skip asked), if_pos rfl, nothingAsked,
            List.append_nil, Lookup.result_pure, ← asked]
      | false => rw [Outcome.orElse_of_pass asked, if_neg Bool.false_ne_true]

mutual

/-- A skipper makes the checks inside it in turn. -/
theorem skip_eq_inTurn (skipper : Skipper) :
    skipper.skip request cluster = Outcome.inTurn (outcomesOf request cluster skipper.leaves) :=
  match skipper with
  | .leaf check => (Outcome.orElse_noCheck (check request cluster)).symm
  | .anyOf children => by
      rw [skip, leaves]
      exact skipAny_eq_inTurn children

/-- A choice makes the checks inside its children in turn. -/
theorem skipAny_eq_inTurn (children : List Skipper) :
    skipAny request children cluster =
      Outcome.inTurn (outcomesOf request cluster (leavesOf children)) :=
  match children with
  | [] => rfl
  | child :: rest => by
      rw [skipAny_cons, leavesOf, outcomesOf_append, Outcome.inTurn_append,
        skip_eq_inTurn child, skipAny_eq_inTurn rest]

end

end Turn

/-! ## Groups of checks -/

theorem leavesOf_append (first second : List Skipper) :
    leavesOf (first ++ second) = leavesOf first ++ leavesOf second := by
  induction first with
  | nil => rfl
  | cons child rest ih => rw [List.cons_append, leavesOf, leavesOf, ih, List.append_assoc]

/-- Somewhere in a skipper the children of a choice are put in its place, among those of the
choice around it. -/
inductive Splices : Skipper → Skipper → Prop
  | here (front inner rest : List Skipper) :
      Splices (.anyOf (front ++ .anyOf inner :: rest)) (.anyOf (front ++ inner ++ rest))
  | inside (front rest : List Skipper) {child spliced : Skipper} :
      Splices child spliced →
      Splices (.anyOf (front ++ child :: rest)) (.anyOf (front ++ spliced :: rest))

theorem Splices.leaves_eq {skipper spliced : Skipper} (splices : skipper.Splices spliced) :
    skipper.leaves = spliced.leaves := by
  induction splices with
  | here front inner rest =>
      rw [leaves, leaves, leavesOf_append, leavesOf, leaves, leavesOf_append, leavesOf_append,
        List.append_assoc]
  | inside front rest _ ih =>
      rw [leaves, leaves, leavesOf_append, leavesOf, ih, leavesOf_append, leavesOf]

section Regroup

variable {request : Request} {cluster : Cluster}

/-- Skippers with the same checks in the same order do the same. -/
theorem skip_eq_of_leaves_eq {skipper other : Skipper} (same : skipper.leaves = other.leaves) :
    skipper.skip request cluster = other.skip request cluster := by
  rw [skip_eq_inTurn, skip_eq_inTurn, same]

/-- A skipper fails exactly if a check inside it fails and all in front of that one pass. -/
theorem result_skip_eq_error_iff {skipper : Skipper} {failure : Failure} :
    (skipper.skip request cluster).result = .error failure ↔
      ∃ passed check rest, skipper.leaves = passed ++ check :: rest ∧
        (∀ earlier ∈ passed, (earlier request cluster).result = .ok false) ∧
        (check request cluster).result = .error failure := by
  rw [skip_eq_inTurn, Outcome.result_inTurn_eq_error_iff]
  constructor
  · rintro ⟨passed, outcome, rest, split, passedPass, failed⟩
    obtain ⟨front, others, isLeaves, rfl, isRest⟩ := List.map_eq_append_iff.mp split
    obtain ⟨check, behind, rfl, rfl, _⟩ := List.map_eq_cons_iff.mp isRest
    exact ⟨front, check, behind, isLeaves, List.forall_mem_map.mp passedPass, failed⟩
  · rintro ⟨passed, check, rest, isLeaves, passedPass, failed⟩
    rw [isLeaves, outcomesOf_append]
    exact ⟨_, _, outcomesOf request cluster rest, rfl, List.forall_mem_map.mpr passedPass, failed⟩

/-- If no check fails, a skipper skips exactly if one of the checks inside it does. -/
theorem exists_result_skip {skipper : Skipper}
    (noneFails : ∀ check ∈ skipper.leaves, (check request cluster).result.isOk = true) :
    ∃ skips, (skipper.skip request cluster).result = .ok skips ∧
      (skips = true ↔ ∃ check ∈ skipper.leaves, (check request cluster).result = .ok true) := by
  obtain ⟨skips, result, skipsIff⟩ :=
    Outcome.exists_result_inTurn (List.forall_mem_map.mpr noneFails)
  refine ⟨skips, skip_eq_inTurn request cluster skipper ▸ result, skipsIff.trans ?_⟩
  simp only [List.mem_map, exists_exists_and_eq_and]

/-- Skippers with the same checks in any order give the same answer, if no check fails. -/
theorem exists_result_skip_of_perm {skipper other : Skipper}
    (permuted : skipper.leaves.Perm other.leaves)
    (noneFails : ∀ check ∈ skipper.leaves, (check request cluster).result.isOk = true) :
    ∃ skips, (skipper.skip request cluster).result = .ok skips ∧
      (other.skip request cluster).result = .ok skips := by
  obtain ⟨skips, result, skipsIff⟩ := exists_result_skip noneFails
  obtain ⟨otherSkips, otherResult, otherIff⟩ :=
    exists_result_skip fun check member => noneFails check (permuted.mem_iff.mpr member)
  have sameAnswer : otherSkips = skips := by
    rw [Bool.eq_iff_iff, skipsIff, otherIff]
    exact exists_congr fun check => and_congr_left fun _ => permuted.mem_iff.symm
  exact ⟨skips, result, sameAnswer ▸ otherResult⟩

end Regroup

/-- What comes of a skipper, its result and the questions that are put, comes of making the
checks inside it in turn from left to right.  So it fails exactly if a check fails that no
earlier one keeps from being made, and putting the children of a choice in its place changes
nothing.  If no check fails, their order and grouping do not matter to the answer. -/
theorem comesTo_leaves (skipper : Skipper) (request : Request) (cluster : Cluster) :
    Outcome.ComesTo (outcomesOf request cluster skipper.leaves) (skipper.skip request cluster) ∧
      (∀ failure, (skipper.skip request cluster).result = .error failure ↔
        ∃ passed check rest, skipper.leaves = passed ++ check :: rest ∧
          (∀ earlier ∈ passed, (earlier request cluster).result = .ok false) ∧
          (check request cluster).result = .error failure) ∧
      (∀ spliced, skipper.Splices spliced →
        spliced.skip request cluster = skipper.skip request cluster) ∧
      (∀ other : Skipper, skipper.leaves.Perm other.leaves →
        (∀ check ∈ skipper.leaves, (check request cluster).result.isOk = true) →
        ∃ skips, (skipper.skip request cluster).result = .ok skips ∧
          (other.skip request cluster).result = .ok skips) := by
  refine ⟨?turn, ?fails, ?spliced, ?permuted⟩
  case turn =>
    rw [skip_eq_inTurn]
    exact Outcome.comesTo_inTurn _
  case fails => exact fun failure => result_skip_eq_error_iff
  case spliced => exact fun spliced splices => (skip_eq_of_leaves_eq splices.leaves_eq).symm
  case permuted => exact fun other permuted => exists_result_skip_of_perm permuted

/-! ### The same checks in three groupings -/

/-- A choice inside a choice, with a check that answers in the middle. -/
def sampleNested (answer : Except Failure Bool) : Skipper :=
  .anyOf [.leaf fun _ => Lookup.check "first" (.ok false),
    .anyOf [.leaf fun _ => Lookup.check "second" answer, .always true]]

/-- The same checks in a single choice. -/
def sampleFlat (answer : Except Failure Bool) : Skipper :=
  .anyOf [.leaf fun _ => Lookup.check "first" (.ok false),
    .leaf fun _ => Lookup.check "second" answer, .always true]

/-- The same checks from right to left. -/
def sampleReversed (answer : Except Failure Bool) : Skipper :=
  .anyOf [.anyOf [.always true, .leaf fun _ => Lookup.check "second" answer],
    .leaf fun _ => Lookup.check "first" (.ok false)]

/-- The check in the middle fails the nested choice and the flat one alike, and if it passes, the
answer is the same from right to left. -/
theorem skip_sampleNested :
    (sampleNested (.error (.plain "down"))).Splices (sampleFlat (.error (.plain "down"))) ∧
      (sampleFlat (.error (.plain "down"))).skip default Snapshot.empty.toCluster =
        (sampleNested (.error (.plain "down"))).skip default Snapshot.empty.toCluster ∧
      (sampleNested (.error (.plain "down"))).skip default Snapshot.empty.toCluster =
        ⟨[.check "first", .check "second"], .error (.plain "down")⟩ ∧
      (sampleNested (.ok false)).leaves.Perm (sampleReversed (.ok false)).leaves ∧
      ∃ skips,
        ((sampleNested (.ok false)).skip default Snapshot.empty.toCluster).result =
          .ok skips ∧
        ((sampleReversed (.ok false)).skip default Snapshot.empty.toCluster).result =
          .ok skips := by
  have splices : (sampleNested (.error (.plain "down"))).Splices
      (sampleFlat (.error (.plain "down"))) :=
    .here [_] [_, _] []
  have permuted : (sampleNested (.ok false)).leaves.Perm (sampleReversed (.ok false)).leaves :=
    (List.reverse_perm _).symm
  have noneFails : ∀ check ∈ (sampleNested (.ok false)).leaves,
      (check default Snapshot.empty.toCluster).result.isOk = true := by
    rintro check (_ | ⟨_, _ | ⟨_, _ | ⟨_, ⟨⟩⟩⟩⟩) <;> rfl
  obtain ⟨_, _, spliced, _⟩ :=
    comesTo_leaves (sampleNested (.error (.plain "down"))) default Snapshot.empty.toCluster
  obtain ⟨_, _, _, sameAnswer⟩ :=
    comesTo_leaves (sampleNested (.ok false)) default Snapshot.empty.toCluster
  exact ⟨splices, spliced _ splices, rfl, permuted, sameAnswer _ permuted noneFails⟩

end Skipper

end Tenancy
