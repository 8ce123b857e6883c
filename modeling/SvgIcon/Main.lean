import SvgIcon.Command.Run
import SvgIcon.Log.RunId

/-!
The program.  It takes in the files below the working directory, runs one command on them in memory
and puts back the files that changed, each with one renaming.  Paths that lead out of the working
directory are taken in if they are among the words.

The program has no network and no cleanup engine of its own: no server answers, no address can be
bound, and optimizing within the process fails.
-/

namespace SvgIcon
namespace Program

structure World where
  disk : Disk
  server : Server := {}
  out : String := ""
  err : String := ""

def placeText (place : Place) : String := "/" ++ "/".intercalate place

/-- Take in an entry of a directory with everything below it. -/
partial def takeEntry (disk : Disk) (at_ : Place) (e : IO.FS.DirEntry) : IO Disk := do
  let place := at_ ++ [e.fileName]
  if ← e.path.isDir then
    let mut disk := disk.put place .directory
    for entry in ← e.path.readDir do
      disk ← takeEntry disk place entry
    return disk
  else
    try return disk.put place (.file (← IO.FS.readBinFile e.path))
    catch _ => return disk

def takePath (disk : Disk) (text : String) : IO Disk := do
  try
    let real ← IO.FS.realPath text
    let place := (Path.ofString real.toString).names
    let ways := (List.range place.length).map fun n => place.take n
    let disk := ways.foldl (fun d p => d.put p .directory) disk
    if ← real.isDir then
      let mut disk := disk.put place .directory
      for entry in ← real.readDir do
        disk ← takeEntry disk place entry
      return disk
    else return disk.put place (.file (← IO.FS.readBinFile real))
  catch _ => return disk

def isUnchanged (before : Disk) (place : Place) (node : Node) : Bool :=
  match before.find? place, node with
  | some .directory, .directory => true
  | some (.file old), .file new => old == new
  | _, _ => false

/-- Put back what changed, directories first. -/
def putBack (before after : Disk) : IO Unit := do
  let changed := after.nodes.filter fun (place, node) => !isUnchanged before place node
  for (place, node) in changed do
    if let .directory := node then IO.FS.createDirAll (placeText place)
  for (place, node) in changed do
    if let .file bytes := node then
      let draft := placeText place ++ ".draft"
      IO.FS.writeBinFile draft bytes
      IO.FS.rename draft (placeText place)

partial def readAll (stream : IO.FS.Stream) (text : String) : IO String := do
  let line ← stream.getLine
  if line.isEmpty then return text else readAll stream (text ++ line)

/-- A machine on which nothing can be bound. -/
def noMachine : Server.Machine World where
  openSocket := pure 0
  bind _ _ _ := pure (.error (.refused "there is no network"))
  close _ := pure ()
  prepare _ _ _ := pure (.ok 0)
  launch _ := pure ()
  hasStarted _ := pure false
  isAlive _ := pure false
  askToExit _ := pure ()
  join _ _ := pure (.ok ())
  now := pure .zero
  sleep _ := pure (.ok ())

def showRow (r : Command.SummaryRow) : String :=
  let status := (Console.styled r.status).toOption.getD r.status
  s!"{r.file}\t{status}\t{r.reduction}\n"

def surroundings (input runId : String) : Command.Surroundings World where
  disk := ⟨World.disk, fun disk w => { w with disk }⟩
  input := pure input
  print t := modify fun w => { w with out := w.out ++ t }
  printError t := modify fun w => { w with err := w.err ++ t }
  printSummary rows := modify fun w => { w with out := w.out ++ String.join (rows.map showRow) }
  session _ := pure (.error (.fault ⟨.connection, "there is no network"⟩))
  engine _ _ := pure (.error (.failure (.unavailable "There is no cleanup engine.")))
  machine _ := noMachine
  server := ⟨World.server, fun server w => { w with server }⟩
  runId := pure runId
  clock := pure .zero

end Program
end SvgIcon

open SvgIcon Program in
def main (words : List String) : IO UInt32 := do
  let cwd := (Path.ofString (← IO.currentDir).toString).names
  let start ← takePath { cwd } (placeText cwd)
  let disk ← (words.filter fun w => w ≠ "-" && (w.startsWith "/" || w.startsWith "..")).foldlM
    takePath start
  let input ← if words.contains "-" then readAll (← IO.getStdin) "" else pure ""
  let id := runId "batch" (← IO.monoMsNow) (← IO.getRandomBytes 16).data.toList
  let (ending, w) := Command.runWords (surroundings input id) words { disk }
  putBack disk w.disk
  (← IO.getStdout).putStr w.out
  let stderr ← IO.getStderr
  stderr.putStr w.err
  match ending with
  | .misuse => stderr.putStr Command.helpText
  | .escaped r => stderr.putStrLn r.text
  | _ => pure ()
  return UInt32.ofNat ending.exitCode
