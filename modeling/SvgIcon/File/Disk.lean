import SvgIcon.Failure
import SvgIcon.File.Encoding
import SvgIcon.File.Path
import SvgIcon.Text.Case
import SvgIcon.Text.Scan

/-!
A disk: directories and files by the place where they are.  A path is followed name by name
from the root or from the working directory, and every step has to start from a directory.
What is refused is told by cause; `Refusal.fault` words it.
-/

namespace SvgIcon

/-- Where something is: the names on the way from the root. -/
abbrev Place := List String

inductive Node
  | file (bytes : ByteArray)
  | directory

/-- The root is always a directory and not listed. -/
structure Disk where
  nodes : List (Place × Node) := []
  cwd : Place := []
  /-- The directories that hold drafts of files whose writing was given up.  A draft is hidden and
  has no name that anyone asks for. -/
  drafts : List Place := []

namespace Disk

/-- Why the system refuses an operation. -/
inductive Refusal
  | missing
  | taken
  | notDirectory
  | isDirectory
  | nameTooLong
  /-- A path that ends in `.` or `..` cannot be replaced by a file. -/
  | busy
  | nullInName
  deriving DecidableEq, Repr

def Refusal.kind : Refusal → Fault.Kind
  | missing => .missingFile
  | taken => .existingFile
  | notDirectory => .notDirectory
  | isDirectory => .isDirectory
  | nameTooLong | busy => .system
  | nullInName => .badValue

def Refusal.reason : Refusal → String
  | missing => "[Errno 2] No such file or directory"
  | taken => "[Errno 17] File exists"
  | notDirectory => "[Errno 20] Not a directory"
  | isDirectory => "[Errno 21] Is a directory"
  | nameTooLong => "[Errno 36] File name too long"
  | busy => "[Errno 16] Device or resource busy"
  | nullInName => "embedded null byte"

def Refusal.fault (r : Refusal) (p : Path) : Fault :=
  { kind := r.kind
    text :=
      if r = .nullInName then r.reason
      else s!"{r.reason}: {String.ofList (Text.quoted p.text.toList)}" }

def find? (d : Disk) (place : Place) : Option Node :=
  if place = [] then some .directory else d.nodes.lookup place

/-- Put a node at a place, over the one that may be there. -/
def put (d : Disk) (place : Place) (node : Node) : Disk :=
  { d with nodes := (place, node) :: d.nodes.filter (·.1 ≠ place) }

/-- The longest name in bytes. -/
def nameLimit : Nat := 255

/-- The longest path in bytes. -/
def pathLimit : Nat := 4095

/-- One name further from a place. -/
def step (d : Disk) (place : Place) (name : String) : Except Refusal Place :=
  match d.find? place with
  | none => .error .missing
  | some (.file _) => .error .notDirectory
  | some .directory =>
    if name = ".." then .ok place.dropLast
    else if nameLimit < name.utf8ByteSize then .error .nameTooLong
    else .ok (place ++ [name])

/-- The place that a path leads to; there need not be anything. -/
def locate (d : Disk) (p : Path) : Except Refusal Place :=
  if p.text.toList.any (·.toNat = 0) then .error .nullInName
  else if pathLimit < p.text.utf8ByteSize then .error .nameTooLong
  else p.names.foldlM d.step (if p.isAbsolute then [] else d.cwd)

def node (d : Disk) (p : Path) : Except Refusal Node := do
  match d.find? (← d.locate p) with
  | some node => .ok node
  | none => .error .missing

/-- What is at the end of a path, if anything; only a name that is too long is refused. -/
def look (d : Disk) (p : Path) : Except Fault (Option Node) :=
  match d.node p with
  | .ok node => .ok (some node)
  | .error .nameTooLong => .error (Refusal.nameTooLong.fault p)
  | .error _ => .ok none

def exists? (d : Disk) (p : Path) : Except Fault Bool := (d.look p).map Option.isSome

def isFile? (d : Disk) (p : Path) : Except Fault Bool :=
  (d.look p).map fun
    | some (.file _) => true
    | _ => false

def isDirectory? (d : Disk) (p : Path) : Except Fault Bool :=
  (d.look p).map fun
    | some .directory => true
    | _ => false

def read (d : Disk) (p : Path) : Except Fault ByteArray :=
  match d.node p with
  | .ok (.file bytes) => .ok bytes
  | .ok .directory => .error (Refusal.isDirectory.fault p)
  | .error r => .error (r.fault p)

/-- The text of a UTF-8 file, every line end as a line feed. -/
def readText (d : Disk) (p : Path) : Except Fault String := do
  match Utf8.decode (← d.read p) with
  | .ok s => return String.ofList (Text.unifyLines s.toList)
  | .error text => throw ⟨.decoding, text⟩

/-! ## Writing

An operation that fails may have made directories before; the disk is threaded through. -/

/-- What works on a disk and may be given up. -/
abbrev Action (α : Type) := ExceptT Fault (StateM Disk) α

/-- Do something on a disk; what the system refuses becomes a failure worded by `describe`. -/
def orFail {α : Type} (describe : String → String) (act : Action α) :
    ExceptT Raised (StateM Disk) α :=
  act.adapt fun f =>
    if f.kind.isSystem then .failure (.persistence (describe f.text)) else .fault f

def makeDirectory (d : Disk) (p : Path) : Except Refusal Disk := do
  let place ← d.locate p
  match d.find? place with
  | some _ => .error .taken
  | none => .ok (d.put place .directory)

/-- Make a directory unless it is there.  Anything but a missing directory on the way is left to
stand if there is a directory in the end. -/
def ensureDirectory (p : Path) (whenMissing : Action Unit) : Action Unit := do
  let d ← getThe Disk
  match d.makeDirectory p with
  | .ok made => set made
  | .error .missing => whenMissing
  | .error .nullInName => throw (Refusal.nullInName.fault p)
  | .error r => if ← d.isDirectory? p then pure () else throw (r.fault p)

/-- Make a directory in one that is there. -/
def ensureLast (p : Path) : Action Unit := ensureDirectory p (throw (Refusal.missing.fault p))

/-- Make a directory and those on the way to it.  The list holds the names in reverse. -/
def makeDirectoriesAt (root : String) : List String → Action Unit
  | [] => ensureLast ⟨root, []⟩
  | name :: above =>
    let p : Path := ⟨root, (name :: above).reverse⟩
    ensureDirectory p do
      makeDirectoriesAt root above
      ensureLast p

def makeDirectories (p : Path) : Action Unit := makeDirectoriesAt p.root p.names.reverse

/-- Where a file may be put in place of what is there. -/
def target (d : Disk) (p : Path) : Except Refusal Place := do
  let place ← d.locate p
  if p.name = "" || p.name = ".." then .error .busy
  else
    match d.find? place with
    | some .directory => .error .isDirectory
    | _ => .ok place

/-- Give up the draft of a file and leave it where it is. -/
def abandonDraft (directory : Path) (f : Fault) : Action Unit := do
  modifyThe Disk fun d =>
    match d.locate directory with
    | .ok place => { d with drafts := place :: d.drafts }
    | .error _ => d
  throw f

/-- Write a file as a whole, with the directories on the way to it.  Either all of the text is in
the file afterwards or the file is as it was; the text is drafted beside the file first, and a draft
that cannot take its place is left behind. -/
def writeText (p : Path) (text : String) (encoding : Encoding) : Action Unit := do
  makeDirectories p.parent
  match encoding.bytes? text with
  | none => abandonDraft p.parent ⟨.encoding, s!"the text cannot be written in {encoding.name}"⟩
  | some bytes =>
    let d ← getThe Disk
    match d.target p with
    | .error r => abandonDraft p.parent (r.fault p)
    | .ok place => set (d.put place (.file bytes))

/-- Add a text at the end of a file, with the directories on the way to it. -/
def appendText (p : Path) (text : String) : Action Unit := do
  makeDirectories p.parent
  let d ← getThe Disk
  match d.locate p with
  | .error r => throw (r.fault p)
  | .ok place =>
    match d.find? place with
    | some .directory => throw (Refusal.isDirectory.fault p)
    | some (.file bytes) => set (d.put place (.file (bytes ++ text.toUTF8)))
    | none => set (d.put place (.file text.toUTF8))

/-! ## Listing -/

/-- What follows a place in another one below it. -/
def below? : Place → Place → Option Place
  | [], name :: rest => some (name :: rest)
  | a :: as, b :: bs => if a = b then below? as bs else none
  | _, _ => none

/-- There is nothing at all in a directory. -/
def isBare (d : Disk) (place : Place) : Bool :=
  !d.drafts.contains place && d.nodes.all fun (other, _) => (below? place other).isNone

/-- The files below a place by the names that follow it, in the order of these names. -/
def filesBelow (d : Disk) (place : Place) : List Place :=
  let below := d.nodes.filterMap fun (at_, node) =>
    match node with
    | .file _ => below? place at_
    | .directory => none
  below.mergeSort fun a b => !decide (b < a)

def componentSuffixes : List String := [".tsx", ".jsx"]

/-- A path below a directory that is longer than the system takes. -/
def tooLongBelow? (d : Disk) (p : Path) (place : Place) : Option Path :=
  (d.nodes.filterMap fun (at_, _) => (below? place at_).map p.extend).find? fun file =>
    pathLimit < file.text.utf8ByteSize

/-- The files that a path stands for: a file for itself, a directory for the files below it whose
suffix in lower case is one of those given.  Below a directory the system is asked what there is by the
paths that start from it, and every one of them has to be short enough. -/
def filesAt (d : Disk) (suffixes : List String) (p : Path) : Except Fault (List Path) := do
  match ← d.look p with
  | some (.file _) => return [p]
  | some .directory =>
    match d.locate p with
    | .ok place =>
      match d.tooLongBelow? p place with
      | some file => throw (Refusal.nameTooLong.fault file)
      | none =>
        return (d.filesBelow place).filterMap fun names =>
          let file := p.extend names
          if suffixes.contains (Text.lowered file.suffix) then some file else none
    | .error _ => return []
  | none => return []

/-- The files that paths stand for, path by path. -/
def filesAtAll (d : Disk) (suffixes : List String) (paths : List Path) : Except Fault (List Path) :=
  return (← paths.mapM (d.filesAt suffixes)).flatten

end Disk
end SvgIcon
