import SvgIcon.Text.Scan
import SvgIcon.Text.Blank
import SvgIcon.Text.Word

/-!
Indented layout.  The markup is broken between tags, and each line is indented by a depth
that opening lines raise and closing lines lower.  The depth is a counter, not a stack of
names, so malformed markup can come out indented oddly but loses nothing.
-/

namespace SvgIcon
namespace Markup

open Text

/-- What a line does to the depth. -/
inductive LineKind
  | opening
  | closing
  | level
  deriving DecidableEq, Repr

namespace LineKind

/-- The change before the line itself is indented. -/
def before : LineKind → Int
  | closing => -1
  | _ => 0

/-- The change for the lines below. -/
def after : LineKind → Int
  | opening => 1
  | _ => 0

/-- The depth at which the line stands, never below zero. -/
def enter : LineKind → Nat → Nat
  | closing, depth => depth - 1
  | _, depth => depth

/-- The depth for the lines below, from the depth at which the line stands. -/
def leave : LineKind → Nat → Nat
  | opening, depth => depth + 1
  | _, depth => depth

end LineKind

/-- Nothing follows but, perhaps, a last line feed. -/
def atLineEnd (s : List Char) : Bool := s = [] || s = ['\n']

def isClosingTag : List Char → Bool
  | '<' :: '/' :: c :: s =>
    isWord c &&
      match s.dropWhile (· ≠ '>') with
      | [] => false
      | _ :: rest => atLineEnd rest
  | _ => false

/-- The line ends in a closing tag and has something before it. -/
def endsInClosingTag : List Char → Bool
  | [] => false
  | c :: s => (c ≠ '\n' && isClosingTag s) || endsInClosingTag s

def startsWithClosingTag : List Char → Bool
  | '<' :: '/' :: c :: _ => isWord c
  | _ => false

/-- No line feed, except perhaps as the last character. -/
def isOneLine (s : List Char) : Bool := atLineEnd (s.dropWhile (· ≠ '\n'))

/-- The line starts with an opening tag.  A slash before the tag's end closes it in place,
unless a second `>` follows at once. -/
def startsWithOpeningTag : List Char → Bool
  | '<' :: c :: s =>
    isWord c &&
      match s.dropWhile (· ≠ '>') with
      | [] => false
      | _ :: rest =>
        ((s.takeWhile (· ≠ '>')).getLast? ≠ some '/' || rest.head? = some '>') && isOneLine rest
  | _ => false

def lineKind (line : List Char) : LineKind :=
  if endsInClosingTag line then .level
  else if startsWithClosingTag line then .closing
  else if startsWithOpeningTag line then .opening
  else .level

/-- A line feed between every `>` and a `<` right behind it. -/
def breakTags : List Char → List Char
  | [] => []
  | c :: s =>
    if c = '>' ∧ s.head? = some '<' then c :: '\n' :: breakTags s else c :: breakTags s

def indent (depth : Nat) : List Char := List.replicate (2 * depth) ' '

/-- Trimmed lines, each indented by the depth it stands at.  Empty lines have no indentation
and leave the depth alone. -/
def indentLines : Nat → List (List Char) → List (List Char)
  | _, [] => []
  | depth, line :: rest =>
    if line = [] then [] :: indentLines depth rest
    else
      let kind := lineKind line
      let here := kind.enter depth
      (indent here ++ line) :: indentLines (kind.leave here) rest

def layout (s : List Char) : List Char :=
  trim (join ['\n'] (indentLines 0 ((pieces '\n' (breakTags s)).map trim)))

end Markup
end SvgIcon
