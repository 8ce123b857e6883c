import SvgIcon.Toml.Lexeme

/-!
The tables that a settings text builds up, and what may no longer be changed in them.
-/

namespace SvgIcon
namespace Toml

/-- A table opened by a header is declared and cannot be declared again.  A value written in place
is frozen with all that is in it. -/
inductive Seal
  | declared
  | frozen
  deriving DecidableEq, Repr

/-- What is sealed, by path. -/
abbrev Seals := List (List String × Seal)

namespace Seals

def isDeclared (seals : Seals) (path : List String) : Bool :=
  seals.any fun s => s.2 = .declared && s.1 = path

/-- A path is frozen with every path that it starts with. -/
def isFrozen (seals : Seals) (path : List String) : Bool :=
  seals.any fun s => s.2 = .frozen && s.1.isPrefixOf path

/-- Nothing at or below the path is sealed any more. -/
def release (seals : Seals) (path : List String) : Seals :=
  seals.filter fun s => !path.isPrefixOf s.1

end Seals

/-- A change of the fields of a table, which may fail. -/
abbrev Change := Fields → Except Error Fields

/-- Change the table at a path, which is made where it is missing.  If `throughLists` is set, a list
on the way stands for its last entry. -/
def changeAt (throughLists : Bool) : List String → Change → Change
  | [], change, fields => change fields
  | k :: path, change, fields =>
    match fields.lookup k with
    | none => (changeAt throughLists path change []).map fun t => Assoc.put k (.object t) fields
    | some (.object t) =>
      (changeAt throughLists path change t).map fun t => Assoc.put k (.object t) fields
    | some (.array items) =>
      match throughLists, items.getLast? with
      | true, some (.object t) =>
        (changeAt throughLists path change t).map fun t =>
          Assoc.put k (.array (items.dropLast ++ [.object t])) fields
      | _, _ => .error .malformed
    | some _ => .error .malformed

def addKey (k : String) (v : Value) : Change := fun fields =>
  if fields.has k then .error .malformed else .ok (fields ++ [(k, v)])

/-- Append an empty table to the list under a key. -/
def appendTable (k : String) : Change := fun fields =>
  match fields.lookup k with
  | none => .ok (fields ++ [(k, .array [.object []])])
  | some (.array items) => .ok (Assoc.put k (.array (items ++ [.object []])) fields)
  | some _ => .error .malformed

/-- What has been read of a text: the tables, the seals, the seals that the next header will set, and
the path of the table that keys go to. -/
structure Document where
  fields : Fields := []
  seals : Seals := []
  pending : List (List String) := []
  header : List String := []

/-- A list or a table is sealed once it stands as a value. -/
def isComposite : Value → Bool
  | .array _ => true
  | .object _ => true
  | _ => false

namespace Document

/-- The document at a header: what was pending is now declared. -/
def atHeader (d : Document) : Document :=
  { d with seals := d.pending.map (·, .declared) ++ d.seals, pending := [] }

def openTable (d : Document) (path : List String) : Except Error Document :=
  if d.seals.isDeclared path || d.seals.isFrozen path then .error .malformed
  else do
    let fields ← changeAt true path .ok d.fields
    return { d with fields, seals := (path, .declared) :: d.seals, header := path }

/-- Open a new table at the end of a list of tables. -/
def openListed (d : Document) (path : List String) : Except Error Document :=
  if d.seals.isFrozen path then .error .malformed
  else do
    let fields ← changeAt true path.dropLast (appendTable (path.getLastD "")) d.fields
    return { d with fields, seals := (path, .declared) :: d.seals.release path, header := path }

/-- The proper front parts of a key, shortest first. -/
def fronts : List String → List (List String)
  | [] => []
  | [_] => []
  | k :: rest => [k] :: (fronts rest).map (k :: ·)

/-- Write a value under a key of the open table.  A key with points must not go through a table that
has been declared. -/
def write (d : Document) (key : List String) (v : Value) : Except Error Document :=
  let onTheWay := (fronts key).map (d.header ++ ·)
  let parent := d.header ++ key.dropLast
  if onTheWay.any d.seals.isDeclared then .error .malformed
  else if !parent.isEmpty && d.seals.isFrozen parent then .error .malformed
  else do
    let fields ← changeAt true parent (addKey (key.getLastD "") v) d.fields
    let seals := if isComposite v then (d.header ++ key, .frozen) :: d.seals else d.seals
    return { d with fields, seals, pending := d.pending ++ onTheWay }

end Document

/-- Write a value under a key of a table in place. -/
def writeInline (fields : Fields) (seals : Seals) (key : List String) (v : Value) :
    Except Error (Fields × Seals) :=
  if seals.isFrozen key then .error .malformed
  else do
    let fields ← changeAt false key.dropLast (addKey (key.getLastD "") v) fields
    return (fields, if isComposite v then (key, .frozen) :: seals else seals)

end Toml
end SvgIcon
