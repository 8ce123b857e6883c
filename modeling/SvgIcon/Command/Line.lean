import SvgIcon.File.Path
import SvgIcon.Icon.Name
import SvgIcon.Number.Numeral

/-!
The command line: the words that a program is called with, and the command that they stand for.
Options may stand before, between and after operands.  An option that takes a value takes the next
word, whatever it is, or what follows an equals sign; of an option given twice the last one counts.
-/

namespace SvgIcon

structure Serve where
  port : Option Int
  host : Option String
  config : Option Path
  deriving Repr, BEq

structure Convert where
  /-- The document; a hyphen stands for the standard input. -/
  file : Path
  name : String
  iconType : String
  root : Path
  optimize : Option Bool
  isLocal : Bool
  config : Option Path
  deriving Repr, BEq

structure OptimizeFiles where
  paths : List Path
  isLocal : Bool
  config : Option Path
  deriving Repr, BEq

inductive Command
  | serve (o : Serve)
  | convert (o : Convert)
  | toSvg (file : Path)
  | optimize (o : OptimizeFiles)
  | plugins
  | config (file : Option Path)
  deriving Repr, BEq

namespace Command

/-- What words stand for.  Words that do not make sense are told apart from a call for help. -/
inductive Reading
  | run (c : Command)
  | help
  | misuse
  deriving Repr, BEq

/-! ## Options and operands -/

/-- The options of a command. -/
structure Grammar where
  flags : List String := []
  valued : List String := []

/-- Words sorted out: options with their values, flags with an empty one, and operands. -/
structure Sorted where
  options : List (String × String) := []
  operands : List String := []
  deriving Repr, BEq

namespace Sorted

def addOption (name value : String) (w : Sorted) : Sorted :=
  { w with options := (name, value) :: w.options }

def addOperand (word : String) (w : Sorted) : Sorted := { w with operands := word :: w.operands }

def value? (w : Sorted) (name : String) : Option String := w.options.reverse.lookup name

def has (w : Sorted) (name : String) : Bool := (w.value? name).isSome

def choice (w : Sorted) (yes no : String) : Option Bool :=
  (w.options.reverse.find? fun o => o.1 = yes || o.1 = no).map fun o => o.1 = yes

def path? (w : Sorted) (name : String) : Option Path := (w.value? name).map Path.ofString

/-- The words that name files or directories.  No other operands make sense. -/
def pathWords (w : Sorted) : List String :=
  w.operands ++ (w.value? "--config").toList ++ (w.value? "--root").toList

/-- The words that name files are such that they can be looked up. -/
def pathsFit (w : Sorted) : Bool := w.pathWords.all fun word => !word.toList.any (·.toNat = 0)

end Sorted

/-- A hyphen on its own is an operand. -/
def isOption (word : String) : Bool := word.startsWith "-" && word ≠ "-"

/-- Sort words out by a grammar.  Behind a double hyphen all are operands. -/
def Grammar.sort? (g : Grammar) : List String → Option Sorted
  | [] => some {}
  | word :: rest =>
    if word = "--" then some { operands := rest }
    else if !isOption word then (g.sort? rest).map (Sorted.addOperand word)
    else
      match Text.cut? ['='] word.toList with
      | some (name, value) =>
        let name := String.ofList name
        if g.valued.contains name then
          (g.sort? rest).map (Sorted.addOption name (String.ofList value))
        else none
      | none =>
        if g.flags.contains word then (g.sort? rest).map (Sorted.addOption word "")
        else if g.valued.contains word then
          match rest with
          | value :: rest => (g.sort? rest).map (Sorted.addOption word value)
          | [] => none
        else none

/-! ## Commands -/

def helpFlag : String := "--help"

def grammar? : String → Option Grammar
  | "serve" => some { flags := [helpFlag], valued := ["--port", "--host", "--config"] }
  | "convert" => some {
      flags := [helpFlag, "--optimize", "--no-optimize", "--local"]
      valued := ["--name", "--type", "--root", "--config"] }
  | "to-svg" => some { flags := [helpFlag] }
  | "optimize" => some { flags := [helpFlag, "--local"], valued := ["--config"] }
  | "plugins" => some { flags := [helpFlag] }
  | "config" => some { flags := [helpFlag], valued := ["--config"] }
  | _ => none

/-- A port that is given: a whole number that is not negative. -/
def port? (text : String) : Option Int :=
  (Numeral.int? text.toList).bind fun n => if n < 0 then none else some n

def ofServe (w : Sorted) : Option Command :=
  let o : Serve := { port := none, host := w.value? "--host", config := w.path? "--config" }
  match w.operands, w.value? "--port" with
  | [], none => some (serve o)
  | [], some text => (port? text).map fun n => serve { o with port := some n }
  | _, _ => none

def ofConvert (w : Sorted) : Option Command :=
  match w.operands, w.value? "--name" with
  | [file], some name =>
    if (Icon.nameError? name).isSome then none
    else some (convert {
      file := Path.ofString file
      name
      iconType := (w.value? "--type").getD "Outline"
      root := (w.path? "--root").getD Path.here
      optimize := w.choice "--optimize" "--no-optimize"
      isLocal := w.has "--local"
      config := w.path? "--config" })
  | _, _ => none

/-- The command of a name with the words that follow it. -/
def ofSorted (name : String) (w : Sorted) : Option Command :=
  match name, w.operands with
  | "serve", _ => ofServe w
  | "convert", _ => ofConvert w
  | "to-svg", [file] => some (toSvg (Path.ofString file))
  | "optimize", path :: more => some (optimize {
      paths := (path :: more).map Path.ofString
      isLocal := w.has "--local"
      config := w.path? "--config" })
  | "plugins", [] => some plugins
  | "config", [] => some (config (w.path? "--config"))
  | _, _ => none

/-- Read the words behind the options of the program itself. -/
def ofNamed : List String → Reading
  | [] => .misuse
  | name :: words =>
    match (grammar? name).bind fun g => g.sort? words with
    | none => .misuse
    | some w =>
      if w.has helpFlag then .help
      else if !w.pathsFit then .misuse
      else
        match ofSorted name w with
        | some c => .run c
        | none => .misuse

/-- Read the words that the program is called with.  The only option of its own is that for help,
which is given before the name of a command. -/
def ofWords (words : List String) : Reading :=
  let rest := words.dropWhile (· = helpFlag)
  let wantsHelp := rest.length < words.length
  match rest with
  | [] => if wantsHelp then .help else .misuse
  | word :: more =>
    if isOption word && word ≠ "--" then .misuse
    else if wantsHelp then .help
    else ofNamed (if word = "--" then more else rest)

def helpText : String := "Usage: svg2tsx COMMAND

Convert SVG markup to React components and optimize it

Commands:
  serve     Run the optimization HTTP service until interrupted.
  convert   Convert an SVG document into an icon component file.
  to-svg    Print the SVG embedded in a component file.
  optimize  Optimize the SVG embedded in component files and folders, in place.
  plugins   List the supported cleanup rules.
  config    Print the effective configuration as JSON.
"

end Command
end SvgIcon
