import SvgIcon.Api.App
import SvgIcon.Batch.Files
import SvgIcon.Command.Line
import SvgIcon.Config.Dump
import SvgIcon.Config.File
import SvgIcon.Console.Basic
import SvgIcon.Icon.Create
import SvgIcon.Server.Basic

/-!
What the commands do.  Failures of the program's own are told on the error output and end a command
with status 1; what a command does not know how to tell escapes from it.
-/

namespace SvgIcon
namespace Command

/-- How a command ends. -/
inductive Ending
  | done
  /-- The words made no sense. -/
  | misuse
  /-- It has been told what went wrong. -/
  | failed
  | interrupted
  /-- Nobody took care of what was raised. -/
  | escaped (r : Raised)
  deriving Repr

namespace Ending

def ofRaised : Raised → Ending
  | .interrupt => interrupted
  | r => escaped r

def exitCode : Ending → Nat
  | done => 0
  | misuse => 2
  | failed | escaped _ => 1
  | interrupted => 130

end Ending

/-- A line of the summary of a batch run. -/
structure SummaryRow where
  file : String
  status : String
  reduction : String
  deriving Repr, BEq

/-- What commands work with. -/
structure Surroundings (σ : Type) where
  disk : Part σ Disk
  /-- The text on the standard input. -/
  input : StateM σ String
  print : String → StateM σ Unit
  printError : String → StateM σ Unit
  /-- Print the summary of a batch run. -/
  printSummary : List SummaryRow → StateM σ Unit
  session : Client.Session σ
  engine : Engine σ
  /-- The machine on which an application is served. -/
  machine : Api.App σ → Server.Machine σ
  server : Part σ Server
  runId : StateM σ String
  /-- The time in seconds. -/
  clock : StateM σ Double

variable {σ : Type}

/-- A step of a command; it may end the command. -/
abbrev Step (σ α : Type) := ExceptT Ending (StateM σ) α

/-- What is raised ends the command. -/
def Step.ofRaising {α : Type} (act : StateM σ (Except Raised α)) : Step σ α :=
  ExceptT.mk (return (← act).mapError Ending.ofRaised)

def Step.ofFault {α : Type} (answer : Except Fault α) : Step σ α :=
  ExceptT.mk (pure (answer.mapError fun f => .escaped (.fault f)))

namespace Surroundings

/-! ## Printing -/

def printStyled (print : String → StateM σ Unit) (text : String) : Step σ Unit := do
  print ((← Step.ofFault (Console.styled text)) ++ "\n")

def tell (s : Surroundings σ) (text : String) : Step σ Unit := printStyled s.print text

def tellError (s : Surroundings σ) (text : String) : Step σ Unit := printStyled s.printError text

def tellPlain (s : Surroundings σ) (text : String) : Step σ Unit :=
  s.print (Console.withEmoji text ++ "\n")

def fail {α : Type} (s : Surroundings σ) (f : Failure) : Step σ α := do
  s.tellError s!"[red]{f.code}[/red]: {f.message}"
  throw .failed

/-- A failure is told, whatever else is raised escapes. -/
def orFail {α : Type} (s : Surroundings σ) (act : StateM σ (Except Raised α)) : Step σ α := do
  match ← act with
  | .ok a => return a
  | .error (.failure f) => s.fail f
  | .error r => throw (.ofRaised r)

/-! ## Reading -/

def config (s : Surroundings σ) (file : Option Path) : Step σ Config := do
  Step.ofFault (Config.ofFile (s.disk.get (← get)) (file.getD Config.defaultFile))

def readText (s : Surroundings σ) (file : Path) : Step σ String := do
  Step.ofFault ((s.disk.get (← get)).readText file)

def document (s : Surroundings σ) (file : Path) : Step σ String := do
  if file.text = "-" then return String.ofList (Text.unifyLines (← s.input).toList)
  else s.readText file

/-! ## Optimizing -/

def endpoint (c : Config) : Client.Endpoint :=
  { url := c.optimizeServer.url, timeout := c.runtime.requestTimeout.map Value.float }

def isAvailable (s : Surroundings σ) (c : Config) (isLocal : Bool) :
    StateM σ (Except Raised Bool) :=
  if isLocal then pure (.ok true) else Client.isAvailable s.session (endpoint c)

/-- What optimizes documents: this process or the server. -/
def submit (s : Surroundings σ) (c : Config) (isLocal : Bool) : Submit σ :=
  if isLocal then Client.submitLocal s.engine Rules.baseline
  else Client.submit s.session (endpoint c)

/-- A document with the markup of its outcome, if that has any, in its place. -/
def optimizedText (svg : String) (o : Outcome) : String :=
  if o.markupText = "" then svg else o.markupText

def gain (o : Outcome) : String :=
  let sizes := s!"{o.originalSize.display} -> {o.optimizedSize.display} bytes"
  s!"Optimized: {sizes} ({o.reduction.display}% smaller)"

def optimizeText (s : Surroundings σ) (c : Config) (isLocal : Bool) (svg : String) :
    Step σ String := do
  unless ← s.orFail (s.isAvailable c isLocal) do
    s.fail (.unavailable Client.unavailableHint)
  let outcome ← s.orFail (s.submit c isLocal svg (some c.rules))
  s.tell (gain outcome)
  return optimizedText svg outcome

/-! ## The commands -/

def convert (s : Surroundings σ) (o : Convert) : Step σ Unit := do
  let c ← s.config o.config
  let svg ← s.document o.file
  unless Markup.looksLikeSvg svg.toList do
    s.fail (.invalidInput "Input content is not an SVG.")
  let svg ←
    if o.optimize.getD c.optimizeServer.enabled then s.optimizeText c o.isLocal svg else pure svg
  let icon ← s.orFail (s.disk.run (Icon.create c o.root svg o.name o.iconType))
  let saved := s!"SVG converted to React component and saved as {icon.path.text}"
  s.tell s!"[green]Success[/green]: {saved}"
  if icon.exported then
    let barrel := icon.path.parent.child "index.ts"
    s.tell s!"Exported {icon.name}{icon.iconType} from {barrel.text}"

def toSvg (s : Surroundings σ) (file : Path) : Step σ Unit := do
  match Markup.extract? (← s.readText file).toList with
  | some element => s.tellPlain (String.ofList (Markup.ofComponent element))
  | none => s.fail (.invalidInput s!"No SVG found in {file.name}")

def statusText (i : ItemOutcome) : String :=
  if i.skipped then "[dim]skipped[/dim]"
  else if i.outcome.success then "[green]optimized[/green]"
  else
    let code := (Value.ofText? i.outcome.code).display
    s!"[red]{code}[/red] {(Value.ofText? i.outcome.error).display}"

def summaryRow (i : ItemOutcome) : SummaryRow :=
  { file := i.identifier
    status := statusText i
    reduction := if i.outcome.reduction.isNull then "-" else s!"{i.outcome.reduction.display}%" }

def summaryLine (r : Batch.Report) : String :=
  let counts := s!"{r.optimized} optimized, {r.errored} errors, {r.skipped} skipped."
  s!"Processed {r.processed} files, {counts}"

def optimize (s : Surroundings σ) (o : OptimizeFiles) : Step σ Unit := do
  let c ← s.config o.config
  unless ← Step.ofRaising (s.isAvailable c o.isLocal) do
    s.fail (.unavailable Client.unavailableHint)
  let collaborators := Batch.onDisk s.disk (s.submit c o.isLocal) (some c.runtime.logPath)
    (fun warning => s.printError (warning ++ "\n")) (fun _ => pure ()) (pure false) s.clock
  match ← Batch.runFiles s.disk collaborators (some c.rules) (← s.runId) o.paths with
  | .error .interrupt =>
    s.tellError "[yellow]Interrupted[/yellow]"
    throw .interrupted
  | .error r => throw (.ofRaised r)
  | .ok report =>
    s.printSummary (report.items.map summaryRow)
    s.tell (summaryLine report)
    if report.errored ≠ 0 then throw .failed

/-- Serve until interrupted, or until the worker ends. -/
def serve (s : Surroundings σ) (o : Serve) : Step σ Unit := do
  let c ← s.config o.config
  let app ← Step.ofFault (Api.App.create c s.engine false)
  let machine := s.machine app
  let host := o.host.getD ""
  let port := o.port.getD c.port
  unless Numeral.fits port do
    throw (.escaped (.fault .tooManyDigits))
  modify (s.server.set {
    host := if host = "" then c.host else host
    port
    startupTimeout := .float c.runtime.startupTimeout
    logLevel := c.runtime.logLevel })
  s.orFail (Server.start machine s.server)
  let port := (s.server.get (← get)).port
  s.tell s!"[green]SVG Optimization Server running on port {port}[/green]"
  let ended ← Server.wait machine s.server Server.pollInterval Server.lookLimit
  Step.ofRaising (Server.stop machine s.server)
  s.tell "SVG Optimization Server stopped"
  match ended with
  | .ok _ | .error .interrupt => return
  | .error r => throw (.ofRaised r)

def listRules (s : Surroundings σ) : Step σ Unit := Rules.catalogue.forM s.tell

def showConfig (s : Surroundings σ) (file : Option Path) : Step σ Unit := do
  let c ← s.config file
  s.print ((← Step.ofFault (c.dump .shown)) ++ "\n")

end Surroundings

def perform (s : Surroundings σ) : Command → Step σ Unit
  | .serve o => s.serve o
  | .convert o => s.convert o
  | .toSvg file => s.toSvg file
  | .optimize o => s.optimize o
  | .plugins => s.listRules
  | .config file => s.showConfig file

def runWords (s : Surroundings σ) (words : List String) : StateM σ Ending := do
  match ofWords words with
  | .misuse => return .misuse
  | .help =>
    s.print helpText
    return .done
  | .run c =>
    match ← (c.perform s).run with
    | .ok () => return .done
    | .error e => return e

end Command
end SvgIcon
