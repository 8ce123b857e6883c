import SvgIcon.Client.Url
import SvgIcon.Json.Reader
import SvgIcon.Service.Basic

/-!
The client that has documents optimized by a server, and the one that does it on its own.
-/

namespace SvgIcon

open Rules

/-- Something that optimizes one document under a rule set, if one is given. -/
abbrev Submit (σ : Type) := String → Option RuleSet → StateM σ (Except Raised Outcome)

namespace Client

/-- What is sent to a server. -/
structure Request where
  method : String
  url : String
  json : Option Value := none
  timeout : Option Value := none
  deriving Repr, BEq

/-- What comes back: a status, and the body, if it can be read as JSON. -/
structure Reply where
  status : Int
  body : Except Fault Value
  deriving Repr

/-- How deep values may stand within each other in a body that is read. -/
def maxDepth : Nat := 950

def containerName : Json.Container → String
  | .array => "array"
  | .object => "object"

/-- Read a body.  A text that is no JSON is a value that makes no sense, but one that goes too deep is
more than the reader can take. -/
def readBody (text : String) : Except Fault Value :=
  (Json.readWithin maxDepth text.toList).mapError fun
    | .tooDeep container => ⟨.recursion, "maximum recursion depth exceeded while decoding a JSON " ++
        containerName container ++ " from a unicode string"⟩
    | _ => ⟨.badValue, "no JSON"⟩

/-- A session sends requests.  It raises a network fault if no answer comes. -/
abbrev Session (σ : Type) := Request → StateM σ (Except Raised Reply)

structure Endpoint where
  url : String
  timeout : Option Value := none
  deriving Repr

def unavailableHint : String :=
  "SVG Optimization Server is not running. Please start it first (svg2tsx serve)."

/-- The request that asks for a document to be optimized. -/
def Endpoint.optimizeRequest (e : Endpoint) (svg : String) (config : Option RuleSet) : Request :=
  { method := "POST"
    url := e.url
    json := some (.object (("svgString", .text svg) ::
      (match config with
      | some rules => [("config", .object rules)]
      | none => [])))
    timeout := e.timeout }

/-- The fields of a reply's body.  A body that is no object has none, nor has one that is no JSON;
but what else goes wrong while it is read goes on. -/
def Reply.fields (r : Reply) : Except Fault Fields :=
  match r.body with
  | .ok v => .ok (v.fields?.getD [])
  | .error f => if f.kind.isValue then .ok [] else .error f

/-- A field that counts as true. -/
def truthyField? (fields : Fields) (key : String) : Option Value :=
  (fields.lookup key).bind fun v => if v.truthy then some v else none

/-- What a status with the fields of a body means: an outcome, a refusal of the markup, or a failure of
the optimizer. -/
def classify (status : Int) (fields : Fields) : Except Failure Outcome :=
  let error := (truthyField? fields "error").map Value.display
  if status = 400 then .error (.invalidInput (error.getD "Invalid SVG format"))
  else
    match truthyField? fields "success", truthyField? fields "data" with
    | some _, some data =>
      if status = 200 then
        .ok
          { success := true
            markup := some data.display
            originalSize := (fields.lookup "originalSize").getD .null
            optimizedSize := (fields.lookup "optimizedSize").getD .null
            reduction := (fields.lookup "reductionPercentage").getD .null }
      else failed error
    | _, _ => failed error
where
  failed (error : Option String) : Except Failure Outcome :=
    let reason := error.getD s!"HTTP error! status: {status}"
    .error (.optimizer s!"SVG optimization failed: {reason}" [])

/-- What a reply comes to.  Its body is read before its status is looked at. -/
def Reply.outcome (r : Reply) : Except Raised Outcome :=
  match r.fields with
  | .ok fields => (classify r.status fields).mapError .failure
  | .error f => .error (.fault f)

/-- A network fault while optimizing means that the server is not there. -/
def submitFault : Raised → Raised
  | .fault f =>
    if f.kind.isNetwork then .failure (.unavailable s!"{unavailableHint} ({f.text})") else .fault f
  | other => other

variable {σ : Type}

def submit (session : Session σ) (e : Endpoint) : Submit σ := fun svg config => do
  match ← session (e.optimizeRequest svg config) with
  | .error raised => return .error (submitFault raised)
  | .ok reply => return reply.outcome

def isAvailable (session : Session σ) (e : Endpoint) : StateM σ (Except Raised Bool) := do
  match healthUrl? e.url with
  | none => return .error (.fault ⟨.badValue, s!"{e.url} does not name a server"⟩)
  | some url =>
    match ← session { method := "GET", url, timeout := e.timeout } with
    | .ok reply => return .ok (reply.status = 200)
    | .error (.fault f) => return if f.kind.isNetwork then .ok false else .error (.fault f)
    | .error other => return .error other

def submitLocal (engine : Engine σ) (baseline : RuleSet) : Submit σ := fun svg config =>
  Service.optimize engine baseline (.text svg) config

end Client
end SvgIcon
