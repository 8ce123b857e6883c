import SvgIcon.Api.Payload
import SvgIcon.Service.Basic
import SvgIcon.Value.Display

/-!
The endpoints of the service.  Fields without a value are left out of an answer, and every failure
of the optimizer becomes an answer too; only an interrupt goes on.
-/

namespace SvgIcon
namespace Api

open Rules

/-- An engine with the rules it works under. -/
structure Host (σ : Type) where
  engine : Engine σ
  baseline : RuleSet := Rules.baseline

def present (fields : Fields) : Value := .object (fields.filter fun f => !f.2.isNull)

def outcomeFields (o : Outcome) : Fields := [
  ("success", .bool o.success),
  ("data", .ofText? o.markup),
  ("error", .ofText? o.error),
  ("originalSize", o.originalSize),
  ("optimizedSize", o.optimizedSize),
  ("reductionPercentage", o.reduction)]

def failed (status : Nat) (message : String) (data : Option String) : Response :=
  .json status (present
    [("success", .bool false), ("data", .ofText? data), ("error", .text message)])

/-- What an optimizer reports about a run, as text with sorted keys. -/
def describe (info : Fields) : String := Json.write .message (Json.sortKeys (.object info))

def answerTo : Except Raised Outcome → Except Raised Response
  | .ok o => .ok (.json 200 (present (outcomeFields o)))
  | .error (.failure (.invalidInput m)) => .ok (failed 400 m none)
  | .error (.failure (.optimizer m info)) => .ok (failed 500 m (some (describe info)))
  | .error .interrupt => .error .interrupt
  | .error e => .ok (failed 500 (if e.text = "" then "Unknown error occurred" else e.text) none)

variable {σ : Type}

def optimize (h : Host σ) (p : OptimizePayload) : StateM σ (Except Raised Response) :=
  return answerTo (← Service.optimize h.engine h.baseline p.svg p.config)

/-- The name of an entry of a batch: its own if it has one, or one by its index. -/
def entryName (index : Nat) (entry : Value) : String :=
  let name := ((entry.fields?.getD []).lookup "name").getD .null
  if name.truthy then name.display else s!"item-{index}"

/-- The content of an entry; one that is no object has none. -/
def entryContent (entry : Value) : Value :=
  ((entry.fields?.getD []).lookup "content").getD .null

def itemsFrom : Nat → List Value → List Service.Item
  | _, [] => []
  | index, entry :: rest =>
    { identifier := entryName index entry, content := entryContent entry } ::
      itemsFrom (index + 1) rest

def resultOf (i : ItemOutcome) : Value :=
  present (("name", .text i.identifier) :: outcomeFields i.outcome)

/-- Optimize several documents, each on its own. -/
def optimizeBatch (h : Host σ) (p : BatchPayload) : StateM σ (Except Raised Response) := do
  match p.files with
  | none => return .ok (failed 400 "svgFiles array is required" none)
  | some files =>
    match ← Service.optimizeBatch h.engine h.baseline p.config (itemsFrom 0 files) with
    | .error e => return .error e
    | .ok outcomes =>
      return .ok (.json 200 (.object
        [("success", .bool true), ("results", .array (outcomes.map resultOf))]))

def health : Response :=
  .json 200 (.object
    [("status", .text "ok"), ("message", .text "SVG Optimization Server is running")])

def plugins : Response :=
  .json 200 (.object
    [("success", .bool true), ("plugins", .array (Rules.catalogue.map .text))])

end Api
end SvgIcon
