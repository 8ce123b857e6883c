import SvgIcon.Value.Basic

/-!
What can go wrong.  A failure is one of the program's own, each with a code that callers and
logs show.  A fault comes from a collaborator, such as the cleanup engine, the network or the
disk; it has a kind and a text.
-/

namespace SvgIcon

inductive Failure
  /-- The markup is missing, is not SVG, or comes with a name that is refused. -/
  | invalidInput (message : String)
  /-- The optimization server cannot be reached. -/
  | unavailable (message : String)
  /-- The optimizer gave no usable answer; it may say more about the run. -/
  | optimizer (message : String) (info : Fields)
  | portInUse (port : Int)
  | serverStart (message : String)
  /-- Something could not be read from or written to disk. -/
  | persistence (message : String)
  | other (message code : String)
  deriving Repr, BEq

namespace Failure

def message : Failure → String
  | invalidInput m => m
  | unavailable m => m
  | optimizer m _ => m
  | portInUse port => s!"Port {port} is already in use"
  | serverStart m => m
  | persistence m => m
  | other m _ => m

def code : Failure → String
  | invalidInput _ => "INVALID_INPUT"
  | unavailable _ => "OPTIMIZER_UNAVAILABLE"
  | optimizer _ _ => "OPTIMIZER_FAILURE"
  | portInUse _ => "PORT_IN_USE"
  | serverStart _ => "SERVER_START"
  | persistence _ => "PERSISTENCE_FAILURE"
  | other _ code => code

end Failure

namespace Fault

inductive Kind
  | malformedMarkup
  | badValue
  | badType
  | tooLarge
  | missingKey
  | runtime
  | recursion
  | encoding
  | decoding
  | badSettings
  | badTags
  | system
  | missingFile
  | existingFile
  | notDirectory
  | isDirectory
  | connection
  | timeout
  deriving DecidableEq, Repr

namespace Kind

/-- The name that stands in for the text of a fault that has none. -/
def name : Kind → String
  | malformedMarkup => "ExpatError"
  | badValue => "ValueError"
  | badType => "TypeError"
  | tooLarge => "OverflowError"
  | missingKey => "KeyError"
  | runtime => "RuntimeError"
  | recursion => "RecursionError"
  | encoding => "UnicodeEncodeError"
  | decoding => "UnicodeDecodeError"
  | badSettings => "TOMLDecodeError"
  | badTags => "MarkupError"
  | system => "OSError"
  | missingFile => "FileNotFoundError"
  | existingFile => "FileExistsError"
  | notDirectory => "NotADirectoryError"
  | isDirectory => "IsADirectoryError"
  | connection => "ConnectionError"
  | timeout => "Timeout"

/-- A value that does not make sense, texts that cannot be encoded, decoded or read included. -/
def isValue : Kind → Bool
  | badValue | encoding | decoding | badSettings => true
  | _ => false

/-- The request never got an answer. -/
def isNetwork : Kind → Bool
  | connection | timeout => true
  | _ => false

/-- The operating system refused; a request without an answer is one such case. -/
def isSystem : Kind → Bool
  | system | missingFile | existingFile | notDirectory | isDirectory => true
  | kind => kind.isNetwork

end Kind
end Fault

structure Fault where
  kind : Fault.Kind
  text : String
  deriving DecidableEq, Repr

/-- The fault of writing or reading a whole number of too many digits. -/
def Fault.tooManyDigits : Fault := ⟨.badValue, "a whole number has too many digits"⟩

/-- The text of the fault, or the name of its kind. -/
def Fault.shown (f : Fault) : String := if f.text = "" then f.kind.name else f.text

/-- What ends a computation early.  An interrupt comes from outside and is not an error. -/
inductive Raised
  | failure (f : Failure)
  | fault (f : Fault)
  | interrupt
  deriving Repr, BEq

def Raised.text : Raised → String
  | failure f => f.message
  | fault f => f.text
  | interrupt => ""

end SvgIcon
