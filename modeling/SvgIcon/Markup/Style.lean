import SvgIcon.Markup.Tag

/-!
Inline styles.  A style text is a list of declarations `key: value` separated by semicolons;
it becomes the literal of an object whose values are texts in single quotes.
-/

namespace SvgIcon
namespace Markup

open Text

/-- One declaration of an inline style. -/
structure Declaration where
  key : List Char
  value : List Char
  deriving DecidableEq, Repr

namespace Declaration

/-- A segment is split at its first colon.  It counts if both sides hold more than blanks. -/
def read? (segment : List Char) : Option Declaration :=
  let key := trim (segment.takeWhile (· ≠ ':'))
  let value := trim ((segment.dropWhile (· ≠ ':')).drop 1)
  if key = [] ∨ value = [] then none else some { key := camelize key, value := value }

def entry (d : Declaration) : List Char := d.key ++ ": '".toList ++ d.value ++ ['\'']

end Declaration

/-- The declarations of a style, in order; segments without a key or a value are dropped. -/
def parseStyle (style : List Char) : List Declaration :=
  (pieces ';' style).filterMap Declaration.read?

/-- The style as an attribute whose value is an object literal. -/
def styleLiteral (style : List Char) : List Char :=
  "style=\x7b\x7b ".toList ++ join ", ".toList ((parseStyle style).map Declaration.entry) ++
    " \x7d\x7d".toList

/-- `style="…"` -/
def styleAttribute? : Recogniser := fun s => do
  let rest ← after? "style=\"".toList s
  if rest.contains '"' then
    let style := rest.takeWhile (· ≠ '"')
    return (8 + style.length, styleLiteral style)
  else none

/-- Every inline style of the markup as an object literal. -/
def convertStyles : List Char → List Char := rewrite styleAttribute?

end Markup
end SvgIcon
