import SvgIcon.Batch.Run
import SvgIcon.Markup.Jsx
import SvgIcon.Part

/-!
Batch runs on files: every component file that paths stand for is an item, read from a disk and
written back to it.
-/

namespace SvgIcon
namespace Batch

/-- The items for the component files that paths stand for. -/
def itemsAt (d : Disk) (paths : List Path) : Except Fault (List Item) :=
  (d.filesAtAll Disk.componentSuffixes paths).map fun files =>
    files.map fun (p : Path) => { identifier := p.text, path := some p }

/-- Write an item to its file, or to the file that its identifier names. -/
def writeItem (item : Item) (text : String) : ExceptT Raised (StateM Disk) Unit :=
  Disk.orFail (fun reason => s!"Failed to write {item.identifier}: {reason}")
    (Disk.writeText (item.path.getD (Path.ofString item.identifier)) text .utf8)

def asComponentMarkup (markup : String) : String := String.ofList (Markup.toJsx markup.toList)

variable {σ : Type}

/-- The collaborators that read, write and log on a disk. -/
def onDisk (disk : Part σ Disk) (submit : Submit σ) (log : Option Path) (warn : String → StateM σ Unit)
    (progress : Double → StateM σ Unit) (cancelled : StateM σ Bool) (clock : StateM σ Double) :
    Collaborators σ where
  read p := disk.run fun d => (d.readText p, d)
  submit := submit
  reembed markup := pure (.ok (asComponentMarkup markup))
  persist item text := disk.run (writeItem item text)
  log := log.map fun p => (p, fun e => disk.run (Log.append p e))
  warn := warn
  progress := progress
  cancelled := cancelled
  clock := clock

def runFiles (disk : Part σ Disk) (c : Collaborators σ) (config : Option Rules.RuleSet)
    (runId : String) (paths : List Path) : StateM σ (Except Raised Report) := do
  match itemsAt (disk.get (← get)) paths with
  | .error f => return .error (.fault f)
  | .ok items => run c config runId items

end Batch
end SvgIcon
