import Tenancy.Decision
import Tenancy.SortedMap

/-!
# Counting decisions

Every decision is counted under the name of its policy and the word for it.
-/

namespace Tenancy

/-- The numbers of decisions, by the name of the policy and the word for the
decision. -/
structure DecisionCounts where
  byPolicy : SortedMap (SortedMap Nat)
  deriving Repr, DecidableEq, Inhabited

namespace DecisionCounts

/-- No decision. -/
def empty : DecisionCounts := ⟨.empty⟩

/-- The number of decisions of a policy with a word for them. -/
def count (counts : DecisionCounts) (policy verdict : String) : Nat :=
  ((counts.byPolicy.get? policy).bind (·.get? verdict)).getD 0

/-- Count one more decision of a policy. -/
def record (counts : DecisionCounts) (policy : String) (decision : Decision) :
    DecisionCounts :=
  let ofPolicy := (counts.byPolicy.get? policy).getD .empty
  ⟨counts.byPolicy.insert policy
    (ofPolicy.insert decision.verdict (counts.count policy decision.verdict + 1))⟩

/-- The name under which decisions are counted. -/
def metricName : String := "tenancy_policy_admission_decisions_total"

/-- The line for one count. -/
def line (policy verdict : String) (count : Nat) : String :=
  metricName ++ "\x7bpolicy=\"" ++ policy ++ "\",verdict=\"" ++ verdict ++ "\"\x7d " ++
    toString count

/-- The lines for all counts, in ascending order of policies and words. -/
def lines (counts : DecisionCounts) : List String :=
  counts.byPolicy.entries.flatMap fun (policy, ofPolicy) =>
    ofPolicy.entries.map fun (verdict, count) => line policy verdict count

end DecisionCounts

end Tenancy
