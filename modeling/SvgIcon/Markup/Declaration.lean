import SvgIcon.Text.Scan

/-!
XML declarations and document types.  Each is taken out up to the nearest end mark on its
own line.
-/

namespace SvgIcon
namespace Markup

open Text

/-- How many characters it takes to read past the first `close` of the line. -/
def reach? (close : List Char) : List Char → Option Nat
  | [] => none
  | c :: s =>
    if (after? close (c :: s)).isSome then some close.length
    else if c = '\n' then none
    else (reach? close s).map (· + 1)

/-- A span from `start` to the first `close` on the same line, replaced by nothing. -/
def lineSpan? (start close : List Char) : Recogniser := fun s => do
  let rest ← after? start s
  let n ← reach? close rest
  return (start.length + n, [])

/-- `<?xml … ?>` -/
def xmlDeclaration? : Recogniser := lineSpan? ['<', '?', 'x', 'm', 'l'] ['?', '>']

/-- `<!DOCTYPE … >` -/
def documentType? : Recogniser :=
  lineSpan? ['<', '!', 'D', 'O', 'C', 'T', 'Y', 'P', 'E'] ['>']

def stripDeclarations (s : List Char) : List Char :=
  rewrite documentType? (rewrite xmlDeclaration? s)

end Markup
end SvgIcon
