import SvgIcon.File.Path
import SvgIcon.Rules.Catalogue
import SvgIcon.Text.Case

/-!
The configuration: where icons go, what is recoloured, how documents are optimized, and how a run
or a server behaves.
-/

namespace SvgIcon

/-- A colour that is replaced in icons of some types. -/
structure ReplaceColor where
  color : String := "#2B2B2B"
  types : List String := ["Fill", "Outline"]
  deriving DecidableEq, Repr

def ReplaceColor.appliesTo (r : ReplaceColor) (iconType : String) : Bool := r.types.contains iconType

structure OptimizeServer where
  url : String := "http://localhost:3600/api/optimize"
  enabled : Bool := true
  deriving DecidableEq, Repr

structure RuntimeLimits where
  logDir : Path := Path.ofString "runs"
  logFile : String := "log.jsonl"
  maxPayloadMb : Int := 10
  requestTimeout : Option Double := none
  startupTimeout : Double := .ofRatio false 10 1
  logLevel : String := "info"
  deriving DecidableEq, Repr

def RuntimeLimits.logPath (r : RuntimeLimits) : Path := r.logDir.join (Path.ofString r.logFile)

def defaultIconPaths : Assoc String := [
  ("Outline", "src/components/Common/Icon/icons/outline"),
  ("Fill", "src/components/Common/Icon/icons/fill"),
  ("Color", "src/components/Common/Icon/icons/color"),
  ("3D", "src/components/Common/Icon/icons/3d")]

structure Config where
  iconPaths : Assoc String := defaultIconPaths
  replaceColor : ReplaceColor := {}
  autoExport : Bool := true
  optimizeServer : OptimizeServer := {}
  port : Int := 3600
  rules : Rules.RuleSet := Rules.clientDefault
  runtime : RuntimeLimits := {}
  host : String := "127.0.0.1"
  deriving Repr, BEq

/-- The directory of an icon type: the configured one, or one named for the type in lower case. -/
def Config.iconPath (c : Config) (iconType : String) : String :=
  let path := (c.iconPaths.lookup iconType).getD ""
  if path = "" then
    s!"src/components/Common/Icon/icons/{Text.lowered iconType}"
  else path

end SvgIcon
