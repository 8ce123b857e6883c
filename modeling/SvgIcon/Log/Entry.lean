import SvgIcon.File.Disk
import SvgIcon.Json.Writer
import SvgIcon.Service.Outcome

/-!
The run log: one line of JSON for each item that a run has worked on.  Lines are only ever added.
-/

namespace SvgIcon
namespace Log

structure Entry where
  runId : String
  source : String
  outcome : Outcome
  elapsedMs : Double
  deriving Repr

namespace Entry

def status (e : Entry) : String := if e.outcome.success then "success" else "failure"

/-- The fields of a line, in their order. -/
def fields (e : Entry) : Fields := [
  ("run_id", .text e.runId),
  ("source", .text e.source),
  ("status", .text e.status),
  ("error_code", .ofText? e.outcome.code),
  ("error_message", .ofText? e.outcome.error),
  ("original_size", e.outcome.originalSize),
  ("optimized_size", e.outcome.optimizedSize),
  ("reduction_percentage", e.outcome.reduction),
  ("elapsed_ms", .float e.elapsedMs)]

/-- The line of an entry, with its line feed. -/
def line (e : Entry) : String := Json.write .log (.object e.fields) ++ "\n"

end Entry

def append (p : Path) (e : Entry) : Disk.Action Unit := Disk.appendText p e.line

end Log
end SvgIcon
