import SvgIcon.Markup.Jsx
import SvgIcon.Markup.Layout

/-!
Component sources: SVG markup wrapped as a component, the markup found again in a source, and
the way back from component markup to SVG.
-/

namespace SvgIcon
namespace Markup

open Text

def wrapComponent (name markup : List Char) : List Char :=
  "const ".toList ++ name ++ " = () => (\n  ".toList ++ markup ++ "\n);\n\nexport default ".toList ++
    name ++ ";\n".toList

def toComponent (name svg : List Char) : List Char := wrapComponent name (toJsx svg)

def svgStart : List Char := "<svg".toList

def svgEnd : List Char := "</svg>".toList

/-- The first `svg` element of a text, with what stands before and behind it. -/
structure Span where
  before : List Char
  element : List Char
  behind : List Char
  deriving DecidableEq, Repr

/-- The element runs from the first `<svg` to the first `</svg>` behind it. -/
def span? (s : List Char) : Option Span := do
  let (before, rest) ← cut? svgStart s
  let (inner, behind) ← cut? svgEnd rest
  return { before, element := svgStart ++ inner ++ svgEnd, behind }

def extract? (s : List Char) : Option (List Char) := (span? s).map (·.element)

/-- `className=` turned to `class=` where no word character stands before it.  The arguments
are whether one does, and how many characters a replacement has covered. -/
def restoreClassFrom : Bool → Nat → List Char → List Char
  | _, _, [] => []
  | _, covered + 1, c :: s => restoreClassFrom (isWord c) covered s
  | inWord, 0, c :: s =>
    if !inWord && (after? "className=".toList (c :: s)).isSome then
      "class=".toList ++ restoreClassFrom (isWord c) 9 s
    else c :: restoreClassFrom (isWord c) 0 s

def restoreClass : List Char → List Char := restoreClassFrom false 0

/-- `={123}`, replaced by the digits in quotes. -/
def numberExpression? : Recogniser := fun s => do
  let rest ← after? "=\x7b".toList s
  let digits := rest.takeWhile isDigit
  match rest.dropWhile isDigit with
  | '}' :: _ => if digits = [] then none else some (digits.length + 3, "=\"".toList ++ digits ++ ['"'])
  | _ => none

def isQuote (c : Char) : Bool := c = '"' || c = '\''

/-- `={'text'}` with quotes of either kind, replaced by the text in double quotes. -/
def textExpression? : Recogniser := fun s => do
  match ← after? "=\x7b".toList s with
  | open_ :: rest =>
    let text := rest.takeWhile fun c => !isQuote c
    match rest.dropWhile fun c => !isQuote c with
    | _ :: '}' :: _ =>
      if isQuote open_ && !text.isEmpty then
        some (text.length + 5, "=\"".toList ++ text ++ ['"'])
      else none
    | _ => none
  | [] => none

/-- `<>` or `</>`, replaced by nothing. -/
def fragment? : Recogniser
  | '<' :: '>' :: _ => some (2, [])
  | '<' :: '/' :: '>' :: _ => some (3, [])
  | _ => none

/-- Component markup as indented SVG.  Number and text expressions become quoted values; every
other expression stays as it is. -/
def ofComponent (source : List Char) : List Char :=
  layout (rewrite fragment? (rewrite textExpression? (rewrite numberExpression?
    (restoreClass source))))

/-- The markup with every copy of the colour replaced by `currentColor`. -/
def recolor (color svg : List Char) : List Char :=
  if color = [] then svg else replaceAll color "currentColor".toList svg

end Markup
end SvgIcon
