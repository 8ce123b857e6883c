import SvgIcon.File.Disk
import SvgIcon.Text.Scan

/-!
The index file of a directory of icons.  It imports what is needed for loading icons when they
are shown and has one line for each icon that it exports.  A line that is there is not
added again; presence is a matter of the text of the file.
-/

namespace SvgIcon
namespace Icon

open Text

def indexFile : String := "index.ts"

def importLine : List Char := "import dynamic from 'next/dynamic';\n".toList

/-- The line that exports an icon under its name and type. -/
def exportLine (name iconType : List Char) : List Char :=
  "export const ".toList ++ name ++ iconType ++ " = dynamic(() => import('./".toList ++ name ++
    "'));\n".toList

def endLine (s : List Char) : List Char :=
  if s = [] || s.getLast? = some '\n' then s else s ++ ['\n']

def withImport (s : List Char) : List Char := if contains importLine s then s else s ++ importLine

/-- An index with an icon added; `none` if it exports the icon already. -/
def addExport? (index name iconType : List Char) : Option (List Char) :=
  let line := exportLine name iconType
  if contains line index then none else some (withImport (endLine index) ++ line)

/-- Save a file; the failure names it without its directory. -/
def save (p : Path) (content : String) : ExceptT Raised (StateM Disk) Unit :=
  Disk.orFail (fun reason => s!"Failed to save component file {p.name}: {reason}")
    (Disk.writeText p content .utf8)

/-- The text of an index file; one that is not there is empty. -/
def readIndex (p : Path) : Disk.Action String := do
  let d ← getThe Disk
  if ← d.exists? p then d.readText p else return ""

/-- Export an icon from the index file of a directory.  The answer is whether a line was added. -/
def exportFrom (directory : Path) (name iconType : String) : ExceptT Raised (StateM Disk) Bool := do
  let p := directory.child indexFile
  let index ← Disk.orFail (fun reason => s!"Failed to read {p.text}: {reason}") (readIndex p)
  match addExport? index.toList name.toList iconType.toList with
  | none => return false
  | some updated =>
    save p (String.ofList updated)
    return true

end Icon
end SvgIcon
