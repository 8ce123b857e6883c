import SvgIcon.Markup.Jsx
import SvgIcon.Rules.Resolve
import SvgIcon.Service.Outcome
import SvgIcon.Service.Size

/-!
The optimization service: it checks a document, lets an engine work on it and measures the
result.  Engines may keep a state of their own, which is threaded through.
-/

namespace SvgIcon

open Rules

/-- The raw answer of an engine. -/
structure EngineResult where
  data : Option String
  info : Fields := []
  deriving Repr, BEq

abbrev Engine (σ : Type) := String → RuleSet → StateM σ (Except Raised EngineResult)

namespace Service

/-- A document as it may be sent to the service. -/
def validate : Value → Except Failure String
  | .text s =>
    if s = "" then .error (.invalidInput "SVG string is required")
    else if Markup.looksLikeSvg s.toList then .ok s
    else .error (.invalidInput "Invalid SVG format")
  | _ => .error (.invalidInput "SVG string is required")

def measure (svg : String) (result : EngineResult) : Except Raised Outcome :=
  let data := result.data.getD ""
  if data = "" then .error (.failure (.optimizer "Failed to optimize SVG" result.info))
  else
    match reductionPercentage? (byteSize svg) (byteSize data) with
    | none => .error (.fault ⟨.tooLarge, "integer division result too large for a float"⟩)
    | some reduction =>
      .ok
        { success := true
          markup := some data
          originalSize := .int (byteSize svg)
          optimizedSize := .int (byteSize data)
          reduction := .float reduction
          info := some result.info }

variable {σ : Type}

/-- Optimize one document under the baseline with the caller's rules written over it. -/
def optimize (engine : Engine σ) (baseline : RuleSet) (markup : Value) (config : Option RuleSet) :
    StateM σ (Except Raised Outcome) :=
  match validate markup with
  | .error f => pure (.error (.failure f))
  | .ok svg => do
    match ← engine svg (merge baseline config) with
    | .error e => pure (.error e)
    | .ok result => pure (measure svg result)

/-- An item of a batch, by a name that need not be unique. -/
structure Item where
  identifier : String
  content : Value
  deriving Repr, BEq

/-- A failure or fault told as an outcome; only an interrupt is passed on. -/
def settle : Except Raised Outcome → Except Raised Outcome
  | .ok o => .ok o
  | .error (.failure (.optimizer m info)) => .ok (.ofFailure (.optimizer m info) info)
  | .error (.failure f) => .ok (.ofFailure f [])
  | .error (.fault f) => .ok (.ofFault f)
  | .error .interrupt => .error .interrupt

/-- Optimize the items one by one; a failing item does not keep the others from being tried. -/
def optimizeBatch (engine : Engine σ) (baseline : RuleSet) (config : Option RuleSet) :
    List Item → StateM σ (Except Raised (List ItemOutcome))
  | [] => pure (.ok [])
  | item :: rest => do
    match settle (← optimize engine baseline item.content config) with
    | .error e => pure (.error e)
    | .ok outcome =>
      match ← optimizeBatch engine baseline config rest with
      | .error e => pure (.error e)
      | .ok more => pure (.ok ({ identifier := item.identifier, outcome } :: more))

end Service
end SvgIcon
