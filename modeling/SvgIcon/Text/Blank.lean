import SvgIcon.Text.Ranges

/-!
White space, and taking it off the ends of a text.  The class is Unicode's, with the four
separators U+001C to U+001F; the zero-width space U+200B and the byte-order mark U+FEFF are
not blank.
-/

namespace SvgIcon
namespace Text

def blankRanges : Ranges := [
  (0x9, 0xD), (0x1C, 0x20), (0x85, 0x85), (0xA0, 0xA0), (0x1680, 0x1680), (0x2000, 0x200A),
  (0x2028, 0x2029), (0x202F, 0x202F), (0x205F, 0x205F), (0x3000, 0x3000)]

def isBlank (c : Char) : Bool := blankRanges.hold c.toNat

/-- The text without the characters of a class at its front. -/
def trimStart (drop : Char → Bool) (s : List Char) : List Char := s.dropWhile drop

/-- The text without the characters of a class at its end. -/
def trimEnd (drop : Char → Bool) (s : List Char) : List Char := (s.reverse.dropWhile drop).reverse

def trim (s : List Char) : List Char := trimEnd isBlank (trimStart isBlank s)

/-- The words of a text: what stands between blanks. -/
def words (s : List Char) : List (List Char) :=
  (s.splitBy fun a b => isBlank a == isBlank b).filter fun w => !w.any isBlank

end Text
end SvgIcon
