import SvgIcon.Config.Basic
import SvgIcon.Failure
import SvgIcon.Json.Writer

/-!
The configuration written out, in the shape in which it is loaded.
-/

namespace SvgIcon
namespace Config

/-- The fields of a settings file that stand for the configuration. -/
def toFields (c : Config) : Fields := [
  ("svg2tsx", .object [
    ("icon_paths", .object (c.iconPaths.map fun (k, v) => (k, .text v))),
    ("replace_color", .object [
      ("color", .text c.replaceColor.color),
      ("types", .array (c.replaceColor.types.map .text))]),
    ("auto_export_module", .bool c.autoExport),
    ("svg_optimize", .object [
      ("url", .text c.optimizeServer.url),
      ("enabled", .bool c.optimizeServer.enabled)]),
    ("optimization_server_port", .int c.port),
    ("svg_optimize_config", .object c.rules)]),
  ("runtime", .object [
    ("log_dir", .text c.runtime.logDir.text),
    ("log_file", .text c.runtime.logFile),
    ("max_payload_mb", .int c.runtime.maxPayloadMb),
    ("request_timeout_s",
      match c.runtime.requestTimeout with
      | some x => .float x
      | none => .null),
    ("startup_timeout_s", .float c.runtime.startupTimeout),
    ("log_level", .text c.runtime.logLevel)]),
  ("api", .object [("host", .text c.host)])]

/-- The configuration as JSON text.  There is none if it holds a moment or a number that is too
long, and the first of these is told. -/
def dump (c : Config) (style : Json.Style) : Except Fault String :=
  let v := Value.object c.toFields
  match v.defects with
  | [] => .ok (Json.write style v)
  | .moment :: _ => .error ⟨.badType, "a moment cannot be written as JSON"⟩
  | .tooManyDigits :: _ => .error .tooManyDigits

end Config
end SvgIcon
