import Tenancy.AllowList
import Tenancy.Proofs.Regex.Context
import Tenancy.Proofs.Regex.Matching

/-!
# What an allow list matches

The patterns of an allow list are put into a group between the ends of a text.  There they match
what they match alone from the beginning of a text to its end, but nothing keeps a pattern from
closing the group itself: such a pattern is accepted although it cannot be read alone.
-/

namespace Tenancy.AllowList

/-- A pattern cannot be read alone exactly if it closes the group that it is put into; and if it
does not, its compiled form matches the texts that the pattern alone matches as a whole. -/
structure Anchors (pattern : String) (compiled : Regex) : Prop where
  escapes_iff : Regex.Escapes pattern ↔ Regex.parse? pattern = none
  isMatch_iff : ¬Regex.Escapes pattern → ∀ text, compiled.isMatch text = true ↔
    ∃ alone, Regex.parse? pattern = some alone ∧ alone.MatchesWhole text

theorem anchors_of_anchored {side : Side} {pattern : String} {compiled : Regex}
    (isAnchored : anchored side pattern = .ok compiled) : Anchors pattern compiled := by
  unfold anchored at isAnchored
  split at isAnchored
  next regex accepted =>
    cases isAnchored
    rcases Regex.parse?_between accepted with escapes | ⟨alone, isAlone, rfl⟩
    · have isNone := escapes.parse?_eq_none
      exact ⟨⟨fun _ => isNone, fun _ => escapes⟩, fun kept => absurd escapes kept⟩
    · have kept : ¬Regex.Escapes pattern := by
        intro escapes
        rw [escapes.parse?_eq_none] at isAlone
        cases isAlone
      refine ⟨⟨fun escapes => absurd escapes kept, fun isNone => ?_⟩, fun _ text => ?_⟩
      · rw [isNone] at isAlone
        cases isAlone
      · rw [Regex.isMatch_between_ends_iff, isAlone]
        simp
  next => cases isAnchored

/-- Read both patterns of a pair, the one for the key first. -/
def readRule (key value : String) : Except Fault AllowRule := do
  let key ← anchored .key key
  let value ← anchored .value value
  return ⟨key, value⟩

/-- A pair is read if both of its patterns are. -/
theorem readRule_eq_ok_iff {key value : String} {rule : AllowRule} :
    readRule key value = .ok rule ↔
      anchored .key key = .ok rule.key ∧ anchored .value value = .ok rule.value := by
  unfold readRule
  cases anchored .key key with
  | error => exact iff_of_false (fun isRead => nomatch isRead) fun both => nomatch both.1
  | ok compiledKey =>
      cases anchored .value value with
      | error => exact iff_of_false (fun isRead => nomatch isRead) fun both => nomatch both.2
      | ok compiledValue =>
          constructor
          · rintro ⟨⟩
            exact ⟨rfl, rfl⟩
          · rintro ⟨⟨⟩, ⟨⟩⟩
            rfl

/-- A pair that is read is added behind the others, whatever they are. -/
theorem add_eq (list : AllowList) (key value : String) :
    list.add key value = (readRule key value).map fun rule => ⟨list.rules ++ [rule]⟩ := by
  unfold add readRule
  cases anchored .key key with
  | error => rfl
  | ok =>
      cases anchored .value value with
      | error => rfl
      | ok => rfl

/-- A pair of patterns is accepted if both of its patterns are, and added behind the others. -/
theorem add_eq_ok {list added : AllowList} {key value : String}
    (isAdded : list.add key value = .ok added) :
    ∃ rule, anchored .key key = .ok rule.key ∧ anchored .value value = .ok rule.value ∧
      added.rules = list.rules ++ [rule] := by
  rw [add_eq] at isAdded
  cases isRead : readRule key value with
  | error =>
      rw [isRead] at isAdded
      cases isAdded
  | ok rule =>
      rw [isRead] at isAdded
      cases isAdded
      obtain ⟨isKey, isValue⟩ := readRule_eq_ok_iff.mp isRead
      exact ⟨rule, isKey, isValue, rfl⟩

/-- Both patterns of a pair that is accepted are kept between the ends of a text, unless they
close the group there. -/
theorem anchors_of_add {list added : AllowList} {key value : String}
    (isAdded : list.add key value = .ok added) :
    ∃ rule, added.rules = list.rules ++ [rule] ∧ Anchors key rule.key ∧
      Anchors value rule.value := by
  obtain ⟨rule, isKey, isValue, isLast⟩ := add_eq_ok isAdded
  exact ⟨rule, isLast, anchors_of_anchored isKey, anchors_of_anchored isValue⟩

theorem anchors_sampleAlternatives :
    ∃ added rule, empty.add "foo|bar" "x.*" = .ok added ∧ added.rules = [rule] ∧
      Anchors "foo|bar" rule.key ∧ Anchors "x.*" rule.value ∧ ¬Regex.Escapes "foo|bar" ∧
      added.allows "bar" "xy" = true ∧ added.allows "foobar" "xy" = false := by
  have isAdded : ∃ added, empty.add "foo|bar" "x.*" = .ok added ∧
      added.allows "bar" "xy" = true ∧ added.allows "foobar" "xy" = false := ⟨_, rfl, rfl, rfl⟩
  obtain ⟨added, isAdded, passes, fails⟩ := isAdded
  obtain ⟨rule, isLast, isKey, isValue⟩ := anchors_of_add isAdded
  refine ⟨added, rule, isAdded, isLast, isKey, isValue, fun escapes => ?_, passes, fails⟩
  have isNone := isKey.escapes_iff.mp escapes
  cases isNone

/-- A pattern that closes its group is accepted, and lets texts pass that begin with one of its
parts. -/
theorem exists_add_escaping :
    ∃ added, empty.add "a)|(?:b" "x" = .ok added ∧ Regex.parse? "a)|(?:b" = none ∧
      added.allows "ax" "x" = true :=
  ⟨_, rfl, rfl, rfl⟩

end Tenancy.AllowList
