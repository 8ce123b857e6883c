import SvgIcon.Console.Cells
import SvgIcon.Console.Tagged

/-!
How text appears on a console without colours.
-/

namespace SvgIcon
namespace Console

/-- Characters that would ring a bell or move the cursor are dropped. -/
def isDropped (c : Char) : Bool :=
  c = '\x07' || c = '\x08' || c = '\x0b' || c = '\x0c' || c = '\r'

def tabWidth : Nat := 8

/-- The blanks that a tab behind a text stands for.  There is at least one, and it may be hidden by
what comes before. -/
def tabBlanks (s : List Char) : List Char :=
  let columns := cells (s ++ [' ']) % tabWidth
  List.replicate (if columns = 0 then 1 else 1 + tabWidth - columns) ' '

/-- Blanks in place of tabs in what follows some characters, which come in reverse.  They are all
the characters since the last tab stop. -/
def expandTabs (since : List Char) : List Char → List Char
  | [] => []
  | c :: s =>
    if c = '\t' then tabBlanks since.reverse ++ expandTabs [] s
    else if c = '\n' then c :: expandTabs [] s
    else c :: expandTabs (c :: since) s

def appearance (s : List Char) : List Char := expandTabs [] (s.filter fun c => !isDropped c)

def withEmoji (s : String) : String := String.ofList (appearance (Emoji.replace s.toList))

def styled (s : String) : Except Fault String :=
  (Tagged.plain s.toList).map fun cs => String.ofList (appearance cs)

end Console
end SvgIcon
