import SvgIcon.Console.Emoji
import SvgIcon.Console.Literal
import SvgIcon.Console.Style
import SvgIcon.Failure

/-!
Text with style tags.  A tag is a word in square brackets that opens a style, or closes one if a
slash comes first; what is seen of the text are the characters outside of tags.  Brackets that
begin with a capital, a digit or a blank are no tag, and neither are brackets behind a backslash.
Emoji may be written by name.
-/

namespace SvgIcon
namespace Console
namespace Tagged

open Text

/-- A tag: what stands between its brackets before an equals sign, and what stands behind it. -/
structure Tag where
  name : List Char
  parameters : List Char
  deriving DecidableEq, Repr

inductive Piece
  | text (s : List Char)
  | tag (t : Tag)
  deriving DecidableEq, Repr

def Tag.ofBody (body : List Char) : Tag :=
  ⟨body.takeWhile (· ≠ '='), (body.dropWhile (· ≠ '=')).drop 1⟩

def startsTag (c : Char) : Bool := ('a' ≤ c && c ≤ 'z') || c = '#' || c = '/' || c = '@'

/-- The body of a tag whose opening bracket has been read. -/
def body? : List Char → Option (List Char)
  | [] => none
  | c :: s =>
    let inner := s.takeWhile fun d => d ≠ ']' && d ≠ '['
    if startsTag c && s[inner.length]? = some ']' then some (c :: inner) else none

/-- What a run of backslashes and the tag behind it stand for, and how many characters they take.
Two backslashes are one; a single one turns the tag into text. -/
def tag? (s : List Char) : Option (List Piece × Nat) :=
  let n := (s.takeWhile (· = '\\')).length
  match s.drop n with
  | '[' :: rest => (body? rest).map fun body =>
    let slashes := if n < 2 then [] else [Piece.text (List.replicate (n / 2) '\\')]
    let last := if n % 2 = 1 then Piece.text ('[' :: body ++ [']']) else .tag (.ofBody body)
    (slashes ++ [last], n + body.length + 2)
  | _ => none

/-- A text as a piece, if there is any.  The backslash before a bracket that begins no tag is
dropped. -/
def plainPiece (s : List Char) : List Piece :=
  if s = [] then [] else [.text (replaceAll ['\\', '['] ['['] s)]

/-- The pieces of a text of which the first characters have been dealt with.  The characters since
the last tag come in reverse. -/
def piecesFrom (since : List Char) : Nat → List Char → List Piece
  | _, [] => plainPiece since.reverse
  | skip + 1, _ :: s => piecesFrom since skip s
  | 0, c :: s =>
    match tag? (c :: s) with
    | some (found, n) => plainPiece since.reverse ++ found ++ piecesFrom [] (n - 1) s
    | none => piecesFrom (c :: since) 0 s

/-- The parameters of a tag that names an action: a name, a name with a literal in parentheses, or a
literal. -/
def namesAction (parameters : List Char) : Bool :=
  let s := trim parameters
  match s.dropWhile fun c => isWord c || c = '.' with
  | [] => true
  | '(' :: rest =>
    Literal.isLiteral (if rest.getLast? = some ')' && !rest.contains '\n' then '(' :: rest else s)
  | _ => Literal.isLiteral s

/-- A style that is open: its name and the parameters of its tag. -/
def Tag.closes (t : Tag) : Bool := t.name.head? ≠ some '@' || namesAction t.parameters

def notOpen : Fault := ⟨.badTags, "a style is closed that is not open"⟩

def badAction : Fault := ⟨.badTags, "the parameters of a tag make no sense"⟩

def canonical (definition : List Char) : Except Fault (List Char) :=
  match Style.canonical? definition with
  | some name => .ok name
  | none => .error ⟨.badValue, "a part of a colour is no number"⟩

/-- The style of a name that was opened last, and the other open styles. -/
def find? (name : List Char) : List Tag → Option (Tag × List Tag)
  | [] => none
  | t :: styles =>
    if t.name = name then some (t, styles)
    else (find? name styles).map fun (found, rest) => (found, t :: rest)

/-- The style that a closing tag closes, and the other open styles.  A tag without a name closes the
style that was opened last. -/
def closed? (name : List Char) (styles : List Tag) : Except Fault (Option (Tag × List Tag)) :=
  match trim name, styles with
  | [], last :: outer => .ok (some (last, outer))
  | [], [] => .ok none
  | name, styles => (canonical name).map fun name => find? name styles

def afterTag (t : Tag) (styles : List Tag) : Except Fault (List Tag) :=
  match t.name with
  | '/' :: name => do
    match ← closed? name styles with
    | some (style, outer) => if style.closes then .ok outer else .error badAction
    | none => .error notOpen
  | name => (canonical name).map fun name => { t with name } :: styles

/-- What is seen of pieces within open styles, the last opened in front. -/
def visible : List Tag → List Piece → Except Fault (List Char)
  | _, [] => .ok []
  | styles, .text s :: rest => do return Emoji.replace s ++ (← visible styles rest)
  | styles, .tag t :: rest => do visible (← afterTag t styles) rest

def plain (s : List Char) : Except Fault (List Char) := visible [] (piecesFrom [] 0 s)

example : piecesFrom [] 0 "a\\[b \\\\[c=d]e[2]".toList =
    [.text "a[b ".toList, .text ['\\'], .tag ⟨['c'], ['d']⟩, .text "e[2]".toList] := by
  decide +kernel

end Tagged
end Console
end SvgIcon
