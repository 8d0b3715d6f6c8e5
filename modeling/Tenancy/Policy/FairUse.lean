import Tenancy.FairUse.Workload
import Tenancy.Policy.Basic

/-!
# Fair use of CPU and memory

A workload that leaves its namespace with too little requested memory for each
requested core is allowed with a warning.
-/

namespace Tenancy

namespace Workload

/-- Add up the running pods of a namespace that do not belong to a workload. -/
def recordOthers (workload : Workload) (name : String) :
    List Pod → Ratio → Except Quantity.Invalid Ratio
  | [], ratio => .ok ratio
  | other :: rest, ratio =>
      if workload.owns name other then workload.recordOthers name rest ratio
      else (ratio.recordPod other).bind (workload.recordOthers name rest)

/-- The totals of a namespace once a workload is there, given its pods. -/
def totalWith (workload : Workload) (name : String) (pods : List Pod) :
    Except Failure Ratio := do
  let others ← (workload.recordOthers name pods .zero).mapError .quantity
  (workload.record others).mapError fun fault => .decode (.quantity "object" fault)

end Workload

/-- Decide on the totals of a namespace. -/
def Ratio.verdict (ratio : Ratio) (limit : Decimal) : Verdict :=
  if ratio.isBelow limit then
    .warned ("ratio " ++ ratio.text ++ " is below the fair use limit")
      (ratio.warning (some limit))
  else .allowed ("ratio " ++ ratio.text)

/-- Warns when a namespace requests too little memory for each core. -/
def Policy.fairUse (skipper : Skipper) (limit : Decimal) : Policy Workload where
  name := "fair-use-ratio"
  skipper := skipper
  decode := Workload.ofJson?
  decide request states :=
    if request.operation = .delete then pure (.allowed "deletions free resources")
    else
      match states.new with
      | none => pure (.allowed "no workload")
      | some workload => do
          let pods ← Lookup.list Pod (some request.namespaceName) none
          let ratio ← Lookup.ofExcept (workload.totalWith request.name pods)
          return ratio.verdict limit

end Tenancy
