/-!
# Reports of several failures

Checks that do not depend on one another are all made, and what fails in them is
reported together.  A report is the list of its causes; an empty one means that
nothing failed.
-/

namespace Tenancy

universe u v

/-- Failures that can be described in a sentence. -/
class Described (ε : Type u) where
  /-- The description of a failure. -/
  message : ε → String

instance : Described String := ⟨id⟩

/-- The failures of independent checks, in the order of the checks. -/
structure Report (ε : Type u) where
  causes : List ε
  deriving Repr, DecidableEq, Inhabited

namespace Report

variable {ε : Type u} {α : Type v}

/-- The report of checks that all succeed. -/
def empty : Report ε := ⟨[]⟩

/-- The report of one failure. -/
def single (cause : ε) : Report ε := ⟨[cause]⟩

/-- Add a failure at the end. -/
def add (report : Report ε) (cause : ε) : Report ε := ⟨report.causes ++ [cause]⟩

/-- Add the failures of another report, each on its own. -/
def extend (report other : Report ε) : Report ε := ⟨report.causes ++ other.causes⟩

instance : Append (Report ε) := ⟨extend⟩

/-- Add the failure of a check, if it failed, and keep its value otherwise. -/
def collect (report : Report ε) : Except ε α → Option α × Report ε
  | .ok value => (some value, report)
  | .error cause => (none, report.add cause)

/-- The reports of several checks, one after the other. -/
def join (reports : List (Report ε)) : Report ε := ⟨reports.flatMap Report.causes⟩

/-- Rename the causes. -/
def map {δ : Type v} (f : ε → δ) (report : Report ε) : Report δ := ⟨report.causes.map f⟩

/-- Whether nothing failed. -/
def isEmpty (report : Report ε) : Bool := report.causes.isEmpty

/-- The number of failures. -/
def size (report : Report ε) : Nat := report.causes.length

variable [Described ε]

/-- The descriptions of the causes. -/
def messages (report : Report ε) : List String := report.causes.map Described.message

/-- The description of a report: that of its only cause, or a list. -/
def message (report : Report ε) : String :=
  match report.messages with
  | [] => ""
  | [only] => only
  | several => "[" ++ ", ".intercalate several ++ "]"

end Report

end Tenancy
