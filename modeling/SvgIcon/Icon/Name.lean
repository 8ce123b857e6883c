import SvgIcon.Text.Word

/-!
Names of icons: a capital letter and then letters and digits, all of them ASCII.  One line feed
at the end of a name is let through.
-/

namespace SvgIcon
namespace Icon

inductive NameError
  | missing
  | notPascalCase
  deriving DecidableEq, Repr

def NameError.message : NameError → String
  | missing => "Name is required"
  | notPascalCase => "Name must be in PascalCase"

def isCapital (c : Char) : Bool := 'A' ≤ c && c ≤ 'Z'

def isNameChar (c : Char) : Bool := Text.isAsciiLetter c || Text.isAsciiDigit c

/-- Name characters up to the end or up to a line feed there. -/
def isNameTail : List Char → Bool
  | [] => true
  | ['\n'] => true
  | c :: s => isNameChar c && isNameTail s

def isPascalCase : List Char → Bool
  | [] => false
  | c :: s => isCapital c && isNameTail s

/-- Why a name is refused, if it is. -/
def nameError? (name : String) : Option NameError :=
  if name = "" then some .missing
  else if isPascalCase name.toList then none
  else some .notPascalCase

end Icon
end SvgIcon
