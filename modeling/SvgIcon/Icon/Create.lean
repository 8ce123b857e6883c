import SvgIcon.Config.Basic
import SvgIcon.Icon.Barrel
import SvgIcon.Icon.Name
import SvgIcon.Markup.Component

/-!
Icon files: a component made of an SVG document, put into the directory of its type and
exported from there.
-/

namespace SvgIcon

/-- An icon that has been written. -/
structure Icon where
  name : String
  iconType : String
  path : Path
  /-- A line was added to the index file. -/
  exported : Bool
  deriving DecidableEq, Repr

namespace Icon

/-- The document with the configured colour replaced, if icons of the type are recoloured. -/
def recolorFor (c : Config) (iconType svg : String) : String :=
  if c.replaceColor.appliesTo iconType then
    String.ofList (Markup.recolor c.replaceColor.color.toList svg.toList)
  else svg

/-- Make a directory with those on the way to it. -/
def makeDirectory (p : Path) : ExceptT Raised (StateM Disk) Path := do
  Disk.orFail (fun reason => s!"Failed to create directory: {reason}") (Disk.makeDirectories p)
  return p

def source (c : Config) (iconType svg : String) : String :=
  String.ofList (Markup.toComponent "Icon".toList (recolorFor c iconType svg).toList)

/-- Write the component for a document below a root directory. -/
def create (c : Config) (root : Path) (svg name iconType : String) :
    ExceptT Raised (StateM Disk) Icon := do
  unless Markup.looksLikeSvg svg.toList do
    throw (.failure (.invalidInput "Input is not an SVG"))
  if let some e := nameError? name then
    throw (.failure (.invalidInput e.message))
  let directory ← makeDirectory (root.join (Path.ofString (c.iconPath iconType)))
  let path := directory.child (name ++ ".tsx")
  save path (source c iconType svg)
  let exported ← if c.autoExport then exportFrom directory name iconType else pure false
  return { name, iconType, path, exported }

end Icon
end SvgIcon
