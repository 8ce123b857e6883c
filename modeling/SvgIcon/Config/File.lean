import SvgIcon.Config.Load
import SvgIcon.File.Disk

/-!
The configuration from a settings file on disk.
-/

namespace SvgIcon
namespace Config

/-- The file that is looked up if no other is named. -/
def defaultFile : Path := Path.ofString "config.toml"

/-- The configuration of a settings file; a file that is not there leaves all defaults. -/
def ofFile (d : Disk) (p : Path) : Except Fault Config := do
  if ← d.exists? p then
    match Utf8.decode (← d.read p) with
    | .ok s => ofText s
    | .error text => .error ⟨.decoding, text⟩
  else return {}

end Config
end SvgIcon
