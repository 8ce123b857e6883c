import SvgIcon.Failure

/-!
What came of optimizing one document, and the items and answers of a batch.
-/

namespace SvgIcon

/-- Sizes and reduction are dynamic values because a remote service may answer anything there;
they are null where they are not known. -/
structure Outcome where
  success : Bool
  markup : Option String := none
  error : Option String := none
  code : Option String := none
  originalSize : Value := .null
  optimizedSize : Value := .null
  reduction : Value := .null
  info : Option Fields := none
  deriving Repr, BEq

namespace Outcome

/-- An outcome that tells of a failure; empty information is left out. -/
def ofFailure (f : Failure) (info : Fields) : Outcome :=
  { success := false
    error := some f.message
    code := some f.code
    info := if info.isEmpty then none else some info }

/-- An outcome for whatever has no code of its own. -/
def ofFault (f : Fault) : Outcome :=
  { success := false, error := some f.shown, code := some "UNKNOWN" }

/-- The markup, empty if there is none. -/
def markupText (o : Outcome) : String := o.markup.getD ""

end Outcome

/-- The outcome of one item of a batch. -/
structure ItemOutcome where
  identifier : String
  outcome : Outcome
  skipped : Bool := false
  deriving Repr, BEq

end SvgIcon
