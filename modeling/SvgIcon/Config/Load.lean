import SvgIcon.Config.Basic
import SvgIcon.Failure
import SvgIcon.Number.Numeral
import SvgIcon.Toml.Reader
import SvgIcon.Value.Display

/-!
The configuration out of the fields of a settings file.  Settings are taken as they come: a text
is read where a number is wanted, anything can stand for a text, and truth is a matter of being
empty or not.  The first setting that makes no sense is a fault.
-/

namespace SvgIcon
namespace Config

/-- The setting under a key, if it is an object. -/
def objectAt (fields : Fields) (key : String) : Fields :=
  ((fields.lookup key).bind Value.fields?).getD []

/-- A whole number: a number without its fraction, or the text of a whole number. -/
def wholeSetting : Value → Except Fault Int
  | .int i => .ok i
  | .bool b => .ok (if b then 1 else 0)
  | .float .nan => .error ⟨.badValue, "no whole number stands for nan"⟩
  | .float x =>
    match x.truncate? with
    | some i => .ok i
    | none => .error ⟨.tooLarge, "no whole number stands for infinity"⟩
  | .text s =>
    match Numeral.int? s.toList with
    | some i => .ok i
    | none =>
      .error ⟨.badValue, s!"not a whole number: {String.ofList (Text.quoted s.toList)}"⟩
  | _ => .error ⟨.badType, "a whole number is wanted"⟩

/-- A number, or the text of one. -/
def numberSetting : Value → Except Fault Double
  | .float x => .ok x
  | .text s =>
    match Numeral.double? s.toList with
    | some x => .ok x
    | none =>
      .error ⟨.badValue, s!"not a number: {String.ofList (Text.quoted s.toList)}"⟩
  | v =>
    match v.whole? with
    | some i =>
      match Double.ofInt? i with
      | some x => .ok x
      | none => .error ⟨.tooLarge, "the number is too large"⟩
    | none => .error ⟨.badType, "a number is wanted"⟩

/-- The text under a key, or a default. -/
def textSetting (fields : Fields) (key default : String) : Except Fault String :=
  ((fields.lookup key).map Value.toText).getD (.ok default)

/-- A list of texts.  A single text counts as a list of one, an object as the list of its keys, and
whatever is empty stands for the default. -/
def textsSetting (v : Value) (default : List String) : Except Fault (List String) :=
  if !v.truthy then .ok default
  else
    match v with
    | .text s => .ok [s]
    | .array items => items.mapM Value.toText
    | .object fields => .ok (fields.map (·.1))
    | v => if v.isShort then .error ⟨.badType, "a list of texts is wanted"⟩ else .error .tooManyDigits

def replaceColorSetting (fields : Fields) : Except Fault ReplaceColor :=
  if fields.isEmpty then .ok {}
  else do
    let color ← textSetting fields "color" ({} : ReplaceColor).color
    let types ← textsSetting ((fields.lookup "types").getD .null) ({} : ReplaceColor).types
    return { color, types }

def optimizeServerSetting (fields : Fields) : Except Fault OptimizeServer := do
  return {
    url := ← textSetting fields "url" ({} : OptimizeServer).url
    enabled := ((fields.lookup "enabled").map Value.truthy).getD true }

/-- The directories of icon types; whatever is not there or empty stands for the default. -/
def iconPathsSetting (fields : Fields) : Except Fault (Assoc String) :=
  if fields.isEmpty then .ok defaultIconPaths
  else fields.mapM fun (k, v) => return (k, ← v.toText)

def runtimeSetting (fields : Fields) : Except Fault RuntimeLimits :=
  if fields.isEmpty then .ok {}
  else do
    let logDir ← textSetting fields "log_dir" "runs"
    let logFile ← textSetting fields "log_file" "log.jsonl"
    let maxPayloadMb ← wholeSetting ((fields.lookup "max_payload_mb").getD (.int 10))
    let requestTimeout ←
      match fields.lookup "request_timeout_s" with
      | none => .ok none
      | some .null => .ok none
      | some v => (numberSetting v).map some
    let startupTimeout ←
      match fields.lookup "startup_timeout_s" with
      | none => .ok ({} : RuntimeLimits).startupTimeout
      | some v => numberSetting v
    let logLevel ← textSetting fields "log_level" "info"
    return {
      logDir := Path.ofString logDir
      logFile
      maxPayloadMb
      requestTimeout
      startupTimeout
      logLevel }

def ofFields (raw : Fields) : Except Fault Config := do
  let own := objectAt raw "svg2tsx"
  let rules := objectAt own "svg_optimize_config"
  let iconPaths ← iconPathsSetting (objectAt own "icon_paths")
  let replaceColor ← replaceColorSetting (objectAt own "replace_color")
  let optimizeServer ← optimizeServerSetting (objectAt own "svg_optimize")
  let port ← wholeSetting ((own.lookup "optimization_server_port").getD (.int 3600))
  let runtime ← runtimeSetting (objectAt raw "runtime")
  let host ← textSetting (objectAt raw "api") "host" "127.0.0.1"
  return {
    iconPaths
    replaceColor
    autoExport := ((own.lookup "auto_export_module").map Value.truthy).getD true
    optimizeServer
    port
    rules := if rules.isEmpty then Rules.clientDefault else rules
    runtime
    host }

/-- The fault of a settings text that cannot be read. -/
def tomlFault : Toml.Error → Fault
  | .malformed => ⟨.badSettings, "the settings do not follow the grammar"⟩
  | .tooManyDigits => .tooManyDigits

def ofText (s : String) : Except Fault Config := do
  ofFields (← (Toml.read s.toList).mapError tomlFault)

end Config
end SvgIcon
