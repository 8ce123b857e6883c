import SvgIcon.Optimizer.Options
import SvgIcon.Service.Basic
import SvgIcon.Text.Blank

/-!
Running the cleanup engine over a document again and again, as long as it gets shorter.
-/

namespace SvgIcon
namespace Optimizer

open Rules

/-- One run of the cleanup engine over a text. -/
abbrev Cleaner (σ : Type) := String → StateM σ (Except Raised String)

def defaultPasses : Int := 10

/-- At most this many passes; a rule set that is not multipass allows one. -/
def passLimit (maxPasses : Int) (rules : RuleSet) : Nat :=
  if ((rules.lookup "multipass").map (·.truthy)).getD false then (max 1 maxPasses).toNat else 1

/-- What is raised when the engine cannot read the document after some passes. -/
def passFailure (completed : Nat) : Raised → Raised
  | .fault f =>
    if f.kind = .malformedMarkup ∨ f.kind.isValue then
      .failure (.optimizer s!"Optimizer could not parse SVG: {f.text}" [("passes", .int completed)])
    else .fault f
  | other => other

def trimText (s : String) : String := String.ofList (Text.trim s.toList)

variable {σ : Type}

/-- The last text and the count of passes made.  From the second pass on, a pass that does not
make the text shorter is the last. -/
def runPasses (clean : Cleaner σ) : Nat → Nat → String → StateM σ (Except Raised (String × Nat))
  | 0, completed, current => pure (.ok (current, completed))
  | left + 1, completed, current => do
    match ← clean current with
    | .error e => pure (.error (passFailure completed e))
    | .ok raw =>
      let candidate := trimText raw
      if candidate.length < current.length ∨ completed = 0 then
        runPasses clean left (completed + 1) candidate
      else pure (.ok (candidate, completed + 1))

/-- The engine that runs a cleaner, which stands for one that has been given the options, in passes.
The options have to be made first. -/
def engine (clean : Cleaner σ) (maxPasses : Int) : Engine σ := fun markup rules => do
  match options rules with
  | .error f => pure (.error (.fault f))
  | .ok _ =>
    match ← runPasses clean (passLimit maxPasses rules) 0 markup with
    | .error e => pure (.error e)
    | .ok (text, passes) =>
      pure (.ok
        { data := if text = "" then none else some text
          info := [("engine", .text "scour"), ("passes", .int passes)] })

end Optimizer
end SvgIcon
