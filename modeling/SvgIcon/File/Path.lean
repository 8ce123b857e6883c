import SvgIcon.Text.Scan

/-!
File paths.  Repeated slashes, single points and a slash at the end are dropped when a path is
read; double points stay.
-/

namespace SvgIcon

/-- A path is a root, which is empty for a relative one, and names.  Exactly two slashes in front
are a root of their own. -/
structure Path where
  root : String
  names : List String
  deriving DecidableEq, Repr

namespace Path

def ofString (s : String) : Path :=
  let parts := Text.pieces '/' s.toList
  let slashes := (s.toList.takeWhile (· = '/')).length
  { root := if slashes = 0 then "" else if slashes = 2 then "//" else "/"
    names := (parts.filter fun p => p ≠ [] && p ≠ ['.']).map String.ofList }

def here : Path := ⟨"", []⟩

def isAbsolute (p : Path) : Bool := p.root ≠ ""

/-- The text of a path; the working directory is a point. -/
def text (p : Path) : String :=
  if p.root = "" && p.names.isEmpty then "." else p.root ++ "/".intercalate p.names

/-- A path read from another one; an absolute path replaces it. -/
def join (p q : Path) : Path := if q.isAbsolute then q else { p with names := p.names ++ q.names }

def child (p : Path) (name : String) : Path := { p with names := p.names ++ [name] }

/-- Names further down from a path. -/
def extend (p : Path) (names : List String) : Path := { p with names := p.names ++ names }

def parent (p : Path) : Path := { p with names := p.names.dropLast }

/-- The last name, empty if there is none. -/
def name (p : Path) : String := p.names.getLastD ""

/-- The part of a name from its last point on.  A point in front or at the end does not count. -/
def suffixOf (name : String) : String :=
  let cs := name.toList
  let after := (cs.reverse.takeWhile (· ≠ '.')).reverse
  let front := cs.length - after.length
  if after.isEmpty || front ≤ 1 then "" else String.ofList ('.' :: after)

def suffix (p : Path) : String := suffixOf p.name

end Path
end SvgIcon
