import SvgIcon.Value.Basic

/-!
The catalogue of cleanup rules, and the rule sets that are used when none is given.
-/

namespace SvgIcon
namespace Rules

/-- A rule set is an object; the keys that count are `multipass`, `plugins`, `floatPrecision`
and `js2svg`. -/
abbrev RuleSet := Fields

def preset : String := "preset-default"

/-- Every cleanup rule, in the order in which they are listed. -/
def catalogue : List String := [
  "removeDoctype", "removeXMLProcInst", "removeComments", "removeMetadata",
  "removeEditorsNSData", "cleanupAttrs", "mergeStyles", "inlineStyles", "minifyStyles",
  "cleanupIDs", "removeUselessDefs", "cleanupNumericValues", "convertColors",
  "removeUnknownsAndDefaults", "removeNonInheritableGroupAttrs", "removeUselessStrokeAndFill",
  "removeViewBox", "cleanupEnableBackground", "removeHiddenElems", "removeEmptyText",
  "convertShapeToPath", "convertEllipseToCircle", "moveElemsAttrsToGroup",
  "moveGroupAttrsToElems", "collapseGroups", "convertPathData", "convertTransform",
  "removeEmptyAttrs", "removeEmptyContainers", "mergePaths", "removeUnusedNS", "sortAttrs",
  "sortDefsChildren", "removeTitle", "removeDesc", "removeDimensions", "removeEnableBackground"]

/-- A rule set with several passes and one plugin, the preset with some rules set apart. -/
def presetWith (overrides : List (String × Bool)) : RuleSet := [
  ("multipass", .bool true),
  ("plugins", .array [.object [
    ("name", .text preset),
    ("params", .object [
      ("overrides", .object (overrides.map fun (rule, on) => (rule, .bool on)))])]])]

/-- The rules that stay off unless they are asked for. -/
def keptParts : List (String × Bool) :=
  [("removeViewBox", false), ("removeTitle", false), ("removeDesc", false)]

/-- What the service adds a caller's rule set to. -/
def baseline : RuleSet := presetWith keptParts

def clientRules : List String := [
  "removeDoctype", "removeXMLProcInst", "removeComments", "removeMetadata",
  "removeEditorsNSData", "cleanupAttrs", "mergeStyles", "inlineStyles", "minifyStyles",
  "cleanupIDs", "removeUselessDefs", "convertPathData", "convertColors",
  "removeUnknownsAndDefaults", "removeUselessStrokeAndFill", "removeEnableBackground",
  "removeHiddenElems", "removeEmptyText", "convertShapeToPath", "moveElemsAttrsToGroup",
  "moveGroupAttrsToElems", "collapseGroups", "convertEllipseToCircle", "convertTransform",
  "removeEmptyAttrs", "removeEmptyContainers", "mergePaths", "cleanupNumericValues", "sortAttrs",
  "sortDefsChildren", "removeDimensions"]

/-- What a client sends when nothing else is configured. -/
def clientDefault : RuleSet := presetWith (keptParts ++ clientRules.map (·, true))

end Rules
end SvgIcon
