import SvgIcon.Failure
import SvgIcon.Number.Decimal
import SvgIcon.Text.Quoted
import SvgIcon.Text.Scan
import SvgIcon.Value.Basic

/-!
The text of a value in a message or where a setting asks for a text.  A text stands for
itself; inside a list or an object it is put in quotes.
-/

namespace SvgIcon
namespace Value

open Text

mutual
/-- The form that a value has inside a list or an object. -/
def written : Value → List Char
  | null => "None".toList
  | bool b => if b then "True".toList else "False".toList
  | int i => (toString i).toList
  | float x => x.text
  | text s => quoted s.toList
  | moment m => m.written.toList
  | array items => '[' :: writtenItems items ++ [']']
  | object fields => '\x7b' :: writtenFields fields ++ ['\x7d']

def writtenItems : List Value → List Char
  | [] => []
  | [v] => written v
  | v :: rest => written v ++ ", ".toList ++ writtenItems rest

def writtenFields : List (String × Value) → List Char
  | [] => []
  | [f] => quoted f.1.toList ++ ": ".toList ++ written f.2
  | f :: rest => quoted f.1.toList ++ ": ".toList ++ written f.2 ++ ", ".toList ++ writtenFields rest
end

/-- The text that stands for the value on its own. -/
def display : Value → String
  | text s => s
  | moment m => m.text
  | v => String.ofList (written v)

/-- The text of the value, unless it is or holds a number that is too long to be written. -/
def toText (v : Value) : Except Fault String :=
  if v.isShort then .ok v.display else .error .tooManyDigits

end Value
end SvgIcon
