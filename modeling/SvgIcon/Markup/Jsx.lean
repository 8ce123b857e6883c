import SvgIcon.Markup.Declaration
import SvgIcon.Markup.Style

/-!
From SVG markup to the markup inside a component: no declarations, property names for
attributes, object literals for styles, empty elements closed in place, all on one line.
-/

namespace SvgIcon
namespace Markup

open Text

/-- An element without content, written as a start tag and an end tag.  The start tag ends at
the first `>`, and the name in the end tag has to be some front part of the word that the
start tag begins with. -/
def emptyPair? : Recogniser
  | '<' :: s =>
    let word := s.takeWhile isWord
    let inner := s.takeWhile (· ≠ '>')
    match s.dropWhile (· ≠ '>') with
    | '>' :: '<' :: '/' :: rest =>
      let name := rest.takeWhile (· ≠ '>')
      if rest.contains '>' && !name.isEmpty && name.isPrefixOf word then
        some (inner.length + name.length + 5, '<' :: inner ++ " />".toList)
      else none
    | _ => none
  | _ => none

def selfCloseEmpty : List Char → List Char := rewrite emptyPair?

def isLineBreak (c : Char) : Bool := c = '\n' || c = '\r'

/-- A run of at least `least` characters of a class, replaced by one space. -/
def run? (inRun : Char → Bool) (least : Nat) : Recogniser := fun s =>
  let n := (s.takeWhile inRun).length
  if least ≤ n then some (n, [' ']) else none

/-- Line breaks and runs of blanks as single spaces, and no blank at either end.  A lone blank
that is no line break stays what it is. -/
def collapseBlanks (s : List Char) : List Char :=
  trim (rewrite (run? isBlank 2) (rewrite (run? isLineBreak 1) s))

def toJsx (svg : List Char) : List Char :=
  collapseBlanks (selfCloseEmpty (convertStyles (renameToProperties (renameClass
    (stripDeclarations svg)))))

/-- Whether the text, blanks aside, starts as an `svg` element does. -/
def looksLikeSvg (s : List Char) : Bool := (after? "<svg".toList (trim s)).isSome

end Markup
end SvgIcon
