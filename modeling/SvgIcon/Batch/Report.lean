import SvgIcon.Service.Outcome
import SvgIcon.File.Path

/-!
The items of a batch run and what is told about them in the end.  Every item that is reported
falls under one verdict, and the counts of a report grow only by `Report.add`.
-/

namespace SvgIcon
namespace Batch

/-- One unit of work: a file, which is read when its turn comes, or content at hand. -/
structure Item where
  identifier : String
  content : Value := .null
  path : Option Path := none
  deriving Repr, BEq

inductive Verdict
  /-- The markup was replaced. -/
  | optimized
  /-- Something went wrong with the item. -/
  | errored
  /-- There is no markup in the item. -/
  | skipped
  deriving DecidableEq, Repr

structure Report where
  runId : String
  processed : Nat := 0
  optimized : Nat := 0
  errored : Nat := 0
  skipped : Nat := 0
  cancelled : Bool := false
  items : List ItemOutcome := []
  deriving Repr

namespace Report

def total (r : Report) : Nat := r.items.length

/-- The report with one more item.  An item that is not skipped has been processed. -/
def add (r : Report) (identifier : String) (verdict : Verdict) (outcome : Outcome) : Report :=
  let items := r.items ++ [{ identifier, outcome, skipped := verdict = .skipped }]
  match verdict with
  | .optimized => { r with processed := r.processed + 1, optimized := r.optimized + 1, items }
  | .errored => { r with processed := r.processed + 1, errored := r.errored + 1, items }
  | .skipped => { r with skipped := r.skipped + 1, items }

end Report
end Batch
end SvgIcon
