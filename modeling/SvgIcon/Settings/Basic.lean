import SvgIcon.Config.File
import SvgIcon.Settings.EnvFile
import SvgIcon.Text.Case
import SvgIcon.Text.Word

/-!
Settings from the environment.  A variable is found under its name in any case; the environment
goes before the environment file.  Settings that cannot be read are told all together.
-/

namespace SvgIcon

structure Settings where
  configPath : Path := Config.defaultFile
  port : Option Int := none
  enableServer : Option Bool := none
  deriving DecidableEq, Repr

namespace Settings

/-- Why the text of a setting is refused. -/
inductive Problem
  | notWhole
  | tooManyDigits
  | notTruth
  deriving DecidableEq, Repr

def variablePrefix : String := "svg2tsx_"

def envFile : Path := Path.ofString ".env"

/-- The text without the zeros that lead it, underscores between them included; the last of
nothing but zeros stays.  Behind zeros a minus sign may stand. -/
def dropZeros : List Char → Option (List Char)
  | '0' :: s =>
    let zeros := s.takeWhile fun c => c = '0' || c = '_'
    match s.dropWhile fun c => c = '0' || c = '_' with
    | [] => some [s.getLastD '0']
    | '.' :: rest => some (zeros.getLastD '0' :: '.' :: rest)
    | c :: rest => if Text.isAsciiDigit c || c = '-' then some (c :: rest) else none
  | c :: s => if Text.isAsciiDigit c then some (c :: s) else none
  | [] => none

/-- The text without a point that has zeros and nothing else behind it. -/
def dropFraction (s : List Char) : List Char :=
  match s.dropWhile (· ≠ '.') with
  | _ :: '0' :: zeros => if zeros.all (· = '0') then s.takeWhile (· ≠ '.') else s
  | _ => s

/-- The text without underscores, which have to stand alone and not at an end. -/
def dropUnderscores (s : List Char) : Option (List Char) :=
  if s.head? = some '_' || s.getLast? = some '_' || Text.contains "__".toList s then none
  else some (s.filter (· ≠ '_'))

/-- The sign of a number, of which only a minus is kept, and what follows.  A plus sign and a minus
sign do not go together. -/
def sign? : List Char → Option (List Char × List Char)
  | '+' :: '-' :: _ => none
  | '+' :: s => some ([], s)
  | '-' :: s => some (['-'], s)
  | s => some ([], s)

/-- A whole number without anything that could be left out. -/
def cleaned? (s : List Char) : Option (List Char) := do
  let (minus, s) ← sign? s
  return minus ++ (← dropUnderscores (dropFraction (← dropZeros s)))

/-- The value of digits, if there are not too many of them and no zero leads others. -/
def digits? (s : List Char) : Option Nat :=
  if s = [] || !s.all Text.isAsciiDigit || Numeral.maxDigits < s.length then none
  else if s.head? = some '0' && s ≠ ['0'] then none
  else some (Numeral.value s)

def value? : List Char → Option Int
  | '-' :: s => (digits? s).map fun n => -(n : Int)
  | s => (digits? s).map Int.ofNat

/-- The text starts with a number of too many digits as it is. -/
def isTooLong (s : List Char) : Bool :=
  let digits := ((Text.after? ['-'] s).getD s).takeWhile Text.isAsciiDigit
  Numeral.maxDigits < digits.length && digits.head? ≠ some '0'

/-- The whole number that a text stands for.  Only a text that needs no cleaning is told to be too
long; one that is too long when it has been cleaned is just no number. -/
def whole (text : String) : Except Problem Int :=
  let s := Text.trimEnd Numeral.isPadding (Text.trimStart Numeral.isPadding text.toList)
  if isTooLong s then .error .tooManyDigits
  else
    match (cleaned? s).bind value? with
    | some n => .ok n
    | none => .error .notWhole

def truth (text : String) : Except Problem Bool :=
  let t := text.map Char.toLower
  if ["1", "true", "t", "yes", "y", "on"].contains t then .ok true
  else if ["0", "false", "f", "no", "n", "off"].contains t then .ok false
  else .error .notTruth

def lowerNames {α : Type} (vars : Assoc α) : Assoc α :=
  Assoc.ofPairs (vars.map fun (k, v) => (Text.lowered k, v))

def find? (env : Assoc String) (file : Assoc (Option String)) (name : String) : Option String :=
  match env.lookup (variablePrefix ++ name) with
  | some v => some v
  | none => (file.lookup (variablePrefix ++ name)).join

/-- A setting that may be missing, read from its text. -/
def optional {α : Type} (read : String → Except Problem α) : Option String → Except Problem (Option α)
  | none => .ok none
  | some text => (read text).map some

/-- The problems of the settings by their names, or the settings. -/
def ofVariables (env : Assoc String) (file : Assoc (Option String)) :
    Except (List (String × Problem)) Settings :=
  let env := lowerNames env
  let file := lowerNames file
  let path := (find? env file "config_path").map Path.ofString
  match optional truth (find? env file "enable_server"), optional whole (find? env file "port") with
  | .ok enableServer, .ok port =>
    .ok { configPath := path.getD Config.defaultFile, port, enableServer }
  | .error e, .ok _ => .error [("enable_server", e)]
  | .ok _, .error e => .error [("port", e)]
  | .error e, .error e' => .error [("enable_server", e), ("port", e')]

/-- The settings in an environment, with the environment file of the working directory. -/
def load (d : Disk) (env : Assoc String) :
    Except Fault (Except (List (String × Problem)) Settings) := do
  let file ←
    if ← d.isFile? envFile then pure (EnvFile.read env (← d.readText envFile).toList)
    else pure []
  return ofVariables env file

/-- The configuration under settings, which go before what the settings file says. -/
def configure (s : Settings) (d : Disk) : Except Fault Config := do
  let c ← Config.ofFile d s.configPath
  return { c with
    port := s.port.getD c.port
    optimizeServer :=
      { c.optimizeServer with enabled := s.enableServer.getD c.optimizeServer.enabled } }

end Settings
end SvgIcon
