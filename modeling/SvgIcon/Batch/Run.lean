import SvgIcon.Batch.Report
import SvgIcon.Client.Http
import SvgIcon.Log.Entry
import SvgIcon.Markup.Component

/-!
A batch run: the markup in each item is taken out, optimized and put back, one item after the
other.  An item that goes wrong is reported and the run goes on; only an interrupt, or a fault
while an item is read or logged that the run does not know how to report, ends it.  Whether the
run is cancelled is asked between items only.
-/

namespace SvgIcon
namespace Batch

open Rules

/-- What a run works with.  Everything may change the threaded state. -/
structure Collaborators (σ : Type) where
  /-- The text of a file. -/
  read : Path → StateM σ (Except Fault String)
  submit : Submit σ
  /-- Optimized markup in the form in which it goes back into an item. -/
  reembed : String → StateM σ (Except Raised String)
  persist : Item → String → StateM σ (Except Raised Unit)
  /-- The run log, if there is one, by its path and what adds an entry. -/
  log : Option (Path × (Log.Entry → StateM σ (Except Fault Unit))) := none
  warn : String → StateM σ Unit
  /-- Told how much of the run is done, from zero to one. -/
  progress : Double → StateM σ Unit
  cancelled : StateM σ Bool
  /-- The time in seconds. -/
  clock : StateM σ Double

variable {σ : Type}

/-- A file that cannot be read, or is not text, is told as a failure. -/
def readFault (identifier : String) (f : Fault) : Raised :=
  if f.kind.isSystem || f.kind = .decoding then
    .failure (.persistence s!"Failed to read {identifier}: {f.text}")
  else .fault f

/-- The content of an item; content at hand that is no text is empty. -/
def content (c : Collaborators σ) (item : Item) : StateM σ (Except Raised String) :=
  match item.path with
  | some p => return (← c.read p).mapError (readFault item.identifier)
  | none => pure (.ok (item.content.text?.getD ""))

/-- Optimize the element of a text and persist the text with the result in its place. -/
def attempt (c : Collaborators σ) (config : Option RuleSet) (item : Item)
    (text element : List Char) : StateM σ (Except Raised Outcome) := do
  match ← c.submit (String.ofList (Markup.ofComponent element)) config with
  | .error e => return .error e
  | .ok outcome =>
    match ← c.reembed outcome.markupText with
    | .error e => return .error e
    | .ok embedded =>
      let updated := Text.replaceFirst element embedded.toList text
      return (← c.persist item (String.ofList updated)).map fun _ => outcome

/-- The verdict on an attempt.  Only an interrupt has none. -/
def judge : Except Raised Outcome → Except Raised (Verdict × Outcome)
  | .ok o => .ok (.optimized, o)
  | .error (.failure f) => .ok (.errored, .ofFailure f [])
  | .error (.fault f) => .ok (.errored, .ofFault f)
  | .error .interrupt => .error .interrupt

/-- Log what came of an item.  A log that the system does not let be written is warned about. -/
def record (c : Collaborators σ) (runId : String) (item : Item) (outcome : Outcome)
    (elapsedMs : Double) : StateM σ (Except Raised Unit) := do
  match c.log with
  | none => return .ok ()
  | some (path, append) =>
    match ← append { runId, source := item.identifier, outcome, elapsedMs } with
    | .ok () => return .ok ()
    | .error f =>
      if f.kind.isSystem then
        c.warn s!"Could not append to run log {path.text}: {f.text}"
        return .ok ()
      else return .error (.fault f)

def noMarkup : Outcome :=
  { success := false, error := some "No SVG found", code := some "NO_SVG" }

def elapsed (start stop : Double) : Double := (stop.add start.neg).mul (.ofRatio false 1000 1)

def process (c : Collaborators σ) (config : Option RuleSet) (runId : String) (item : Item) :
    StateM σ (Except Raised (Verdict × Outcome)) := do
  match ← content c item with
  | .error (.failure f) =>
    let outcome := Outcome.ofFailure f []
    return (← record c runId item outcome .zero).map fun _ => (.errored, outcome)
  | .error e => return .error e
  | .ok text =>
    match Markup.extract? text.toList with
    | none => return .ok (.skipped, noMarkup)
    | some element =>
      let start ← c.clock
      match judge (← attempt c config item text.toList element) with
      | .error e => return .error e
      | .ok (verdict, outcome) =>
        let stop ← c.clock
        return (← record c runId item outcome (elapsed start stop)).map fun _ => (verdict, outcome)

/-- The part of a run that is done after `index + 1` of `total` items. -/
def progressAt (index total : Nat) : Double := (Double.quotient? (index + 1) total).getD .one

/-- Go on with a run after `index` items. -/
def runFrom (c : Collaborators σ) (config : Option RuleSet) (total : Nat) :
    Report → Nat → List Item → StateM σ (Except Raised Report)
  | report, _, [] => return .ok report
  | report, index, item :: rest => do
    if ← c.cancelled then
      return .ok { report with cancelled := true }
    else
      match ← process c config report.runId item with
      | .error e => return .error e
      | .ok (verdict, outcome) =>
        c.progress (progressAt index total)
        runFrom c config total (report.add item.identifier verdict outcome) (index + 1) rest

def run (c : Collaborators σ) (config : Option RuleSet) (runId : String) (items : List Item) :
    StateM σ (Except Raised Report) := do
  c.progress .zero
  runFrom c config items.length { runId } 0 items

end Batch
end SvgIcon
