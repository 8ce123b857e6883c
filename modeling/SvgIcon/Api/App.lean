import SvgIcon.Api.Endpoint
import SvgIcon.Config.Basic
import SvgIcon.Number.Numeral

/-!
The application that answers requests: a limit on the size of bodies, answers to browsers of every
origin, and the routes to the endpoints, one within the other.
-/

namespace SvgIcon
namespace Api

inductive Route
  | docs
  | docsRedirect
  | reference
  | schema
  | health
  | optimize
  | optimizeBatch
  | plugins
  deriving DecidableEq, Repr

namespace Route

/-- The pages about the service, which are there even if optimizing has been turned off. -/
def pages : List Route := [docs, docsRedirect, reference, schema]

def all : List Route := pages ++ [health, optimize, optimizeBatch, plugins]

def path : Route → String
  | docs => "/docs"
  | docsRedirect => "/docs/oauth2-redirect"
  | reference => "/redoc"
  | schema => "/openapi.json"
  | health => "/health"
  | optimize => "/api/optimize"
  | optimizeBatch => "/api/optimize/batch"
  | plugins => "/api/plugins"

def methods : Route → List String
  | health | plugins => ["GET"]
  | optimize | optimizeBatch => ["POST"]
  | docs | docsRedirect | reference | schema => ["GET", "HEAD"]

def ofPath? (routes : List Route) (path : String) : Option Route :=
  routes.find? fun r => Request.leadsTo path r.path

end Route

structure App (σ : Type) where
  /-- What does the work; without it the routes that need it answer that they cannot. -/
  host : Option (Host σ)
  /-- The largest body in bytes. -/
  maxBytes : Int

variable {σ : Type}

/-- The application under a configuration.  It is a fault to want it where optimizing has been
turned off. -/
def App.create (c : Config) (engine : Engine σ) (requireEnabled : Bool) : Except Fault (App σ) :=
  if requireEnabled && !c.optimizeServer.enabled then
    .error ⟨.runtime,
      "SVG optimization is disabled. Enable it via svg2tsx.svg_optimize.enabled"⟩
  else .ok { host := some { engine }, maxBytes := c.runtime.maxPayloadMb * 1024 * 1024 }

def unavailable : Response := .detail 503 "SERVICE_UNAVAILABLE"

/-- Answer with the host, a body having been read. -/
def withPayload {α : Type} (app : App σ) (r : Request)
    (read : Body → Except (List Problem) α)
    (answer : Host σ → α → StateM σ (Except Raised Response)) : StateM σ (Except Raised Response) :=
  match Body.ofRequest r with
  | .error e => pure (.ok e.response)
  | .ok body =>
    match app.host with
    | none => pure (.ok unavailable)
    | some h =>
      match read body with
      | .error problems => pure (.ok (refuse problems))
      | .ok payload => answer h payload

/-- A page about the service: the paths of its endpoints. -/
def page : Response :=
  { status := 200
    content := .text ("\n".intercalate
      ([Route.health, .optimize, .optimizeBatch, .plugins].map Route.path)) }

def respond (app : App σ) (r : Request) : Route → StateM σ (Except Raised Response)
  | .health => pure (.ok health)
  | .plugins => pure (.ok (if app.host.isSome then plugins else unavailable))
  | .optimize => withPayload app r OptimizePayload.ofBody optimize
  | .optimizeBatch => withPayload app r BatchPayload.ofBody optimizeBatch
  | .docs | .docsRedirect | .reference | .schema => pure (.ok page)

/-- The path without the slashes at its end, or with one if there is none. -/
def otherPath (path : String) : String :=
  let cs := path.toList
  if cs.getLast? = some '/' then String.ofList (Text.trimEnd (· = '/') cs) else path ++ "/"

/-- Answer by path and method.  A path that leads nowhere but would with another slash at its end is
redirected. -/
def routeAmong (routes : List Route) (r : Request)
    (respond : Route → StateM σ (Except Raised Response)) : StateM σ (Except Raised Response) :=
  match Route.ofPath? routes r.path with
  | some route =>
    if route.methods.contains r.method then respond route else pure (.ok .methodNotAllowed)
  | none =>
    let other := otherPath r.path
    if r.path ≠ "/" && (Route.ofPath? routes other).isSome then pure (.ok (.redirect other))
    else pure (.ok .notFound)

def route (app : App σ) (r : Request) : StateM σ (Except Raised Response) :=
  routeAmong Route.all r (respond app r)

def anyOrigin : String := "*"

/-- The methods that a page of another origin may use. -/
def crossOriginMethods : List String := [
  "DELETE", "GET", "HEAD", "OPTIONS", "PATCH", "POST", "PUT", "QUERY"]

/-- The answer to a browser that asks whether a page of another origin may send a request. -/
def preflight (method : String) : Response :=
  { status := if crossOriginMethods.contains method then 200 else 400
    content := .text (if crossOriginMethods.contains method then "OK" else "Disallowed CORS method")
    allowOrigin := some anyOrigin }

def crossOrigin (r : Request) (next : StateM σ (Except Raised Response)) :
    StateM σ (Except Raised Response) :=
  match r.header? "origin" with
  | none => next
  | some _ =>
    match r.method, r.header? "access-control-request-method" with
    | "OPTIONS", some method => pure (.ok (preflight method))
    | _, _ => return (← next).map fun response => { response with allowOrigin := some anyOrigin }

/-- The size of a body as it is declared, or as it is if nothing is; what is no number counts as
nothing.  There is none if the number is too long to be read. -/
def declaredSize? (r : Request) : Option Nat :=
  match r.header? "content-length" with
  | none => some r.body.size
  | some declared =>
    let cs := declared.toList
    if cs = [] || !cs.all Text.isAsciiDigit then some 0
    else if Numeral.maxDigits < cs.length then none
    else some (Numeral.value cs)

def tooLarge : Response :=
  .json 413 (.object [("success", .bool false), ("error", .text "SIZE_LIMIT")])

def App.answer (app : App σ) (r : Request) : StateM σ (Except Raised Response) :=
  match declaredSize? r with
  | none => pure (.ok .brokenDown)
  | some size => if app.maxBytes < size then pure (.ok tooLarge) else crossOrigin r (route app r)

/-- The answer of the application that stands in where optimizing has been turned off. -/
def disabledAnswer (r : Request) : StateM σ (Except Raised Response) :=
  if Request.leadsTo r.path "/" then
    pure (.ok (if r.method = "GET" then
      .detail 503
        "SVG optimization disabled. Enable by setting svg_optimize.enabled = true in config.toml"
    else .methodNotAllowed))
  else routeAmong Route.pages r fun _ => pure (.ok page)

end Api
end SvgIcon
