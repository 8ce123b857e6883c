import SvgIcon.Api.Message
import SvgIcon.Json.Bytes
import SvgIcon.Json.Reader
import SvgIcon.Rules.Catalogue

/-!
What the body of a request asks for.  The body has to be an object; fields that nobody knows are
ignored, and two of the fields go by two names, of which the first one wins.
-/

namespace SvgIcon
namespace Api

open Rules

/-- Something that is wrong with a body: its kind, and where it is. -/
structure Problem where
  kind : String
  location : List String
  deriving DecidableEq, Repr

def Problem.value (p : Problem) : Value :=
  .object [("type", .text p.kind), ("loc", .array (p.location.map .text))]

/-- A request to optimize one document. -/
structure OptimizePayload where
  svg : Value
  config : Option RuleSet
  deriving Repr, BEq

/-- A request to optimize several documents; there may be no list of them. -/
structure BatchPayload where
  files : Option (List Value)
  config : Option RuleSet
  deriving Repr, BEq

/-- What a body holds. -/
inductive Body
  | empty
  | json (v : Value)
  /-- Not declared as JSON. -/
  | opaqueBytes

/-- Why a body is given up before anybody looks at its fields. -/
inductive Unreadable
  /-- The bytes are no text, or the text asks for too much. -/
  | unusable
  | notJson
  /-- A text in it holds one unit of a pair without the other, and is thus no text here.  What the
  service makes of it depends on where it stands; as a name it has a whole batch break down. -/
  | unpaired
  deriving DecidableEq, Repr

/-- How deep values may stand within each other in a body. -/
def maxDepth : Nat := 950

def Body.ofRequest (r : Request) : Except Unreadable Body :=
  if r.body.isEmpty then .ok .empty
  else if !r.isJson then .ok .opaqueBytes
  else
    match Json.textOfBytes? r.body with
    | none => .error .unusable
    | some s =>
      match Json.readWithin maxDepth s with
      | .ok v => .ok (.json v)
      | .error .malformed => .error .notJson
      | .error .unpaired => .error .unpaired
      | .error _ => .error .unusable

def Unreadable.response : Unreadable → Response
  | unusable => .detail 400 "There was an error parsing the body"
  | notJson =>
    .json 422 (.object [("detail", .array [(Problem.mk "json_invalid" ["body"]).value])])
  | unpaired => .brokenDown

def refuse (problems : List Problem) : Response :=
  .json 422 (.object [("detail", .array (problems.map Problem.value))])

def Body.fields : Body → Except Problem Fields
  | .json (.object fields) => .ok fields
  | .empty => .error ⟨"missing", ["body"]⟩
  | _ => .error ⟨"model_attributes_type", ["body"]⟩

/-- A field by the first of two names under which it is there. -/
def fieldOf (fields : Fields) (first second : String) : String × Value :=
  match fields.lookup first with
  | some v => (first, v)
  | none => (second, (fields.lookup second).getD .null)

def configOf (fields : Fields) : Except Problem (Option RuleSet) :=
  match (fields.lookup "config").getD .null with
  | .null => .ok none
  | .object rules => .ok (some rules)
  | _ => .error ⟨"dict_type", ["body", "config"]⟩

def filesOf (fields : Fields) : Except Problem (Option (List Value)) :=
  match fieldOf fields "svgFiles" "svg_files" with
  | (_, .null) => .ok none
  | (_, .array files) => .ok (some files)
  | (name, _) => .error ⟨"list_type", ["body", name]⟩

def OptimizePayload.ofBody (b : Body) : Except (List Problem) OptimizePayload :=
  match b.fields with
  | .error p => .error [p]
  | .ok fields =>
    match configOf fields with
    | .error p => .error [p]
    | .ok config => .ok { svg := (fieldOf fields "svgString" "svg_string").2, config }

def BatchPayload.ofBody (b : Body) : Except (List Problem) BatchPayload :=
  match b.fields with
  | .error p => .error [p]
  | .ok fields =>
    match filesOf fields, configOf fields with
    | .ok files, .ok config => .ok { files, config }
    | .error p, .ok _ => .error [p]
    | .ok _, .error p => .error [p]
    | .error p, .error q => .error [p, q]

end Api
end SvgIcon
