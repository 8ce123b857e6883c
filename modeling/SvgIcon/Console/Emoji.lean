import SvgIcon.Console.Emoji.Names
import SvgIcon.Number.Digits
import SvgIcon.Text.Blank
import SvgIcon.Text.Case
import SvgIcon.Text.Scan

/-!
Emoji by name.  A name between colons stands for an emoji; `-emoji` or `-text` behind the name says
how it is to be shown.  Colons around anything else stay as they are.
-/

namespace SvgIcon
namespace Console
namespace Emoji

open Text

/-- The characters of code points in hexadecimal with hyphens between them. -/
def characters (s : List Char) : List Char :=
  (pieces '-' s).map fun code => Char.ofNat (Numeral.valueIn 16 code)

/-- The names of an entry, each with the emoji that it stands for. -/
def ofEntry (s : List Char) : List (String × List Char) :=
  match cut? ['='] s with
  | some (codes, names) => (pieces ',' names).map fun n => (String.ofList n, characters codes)
  | none => []

def plain : List (String × List Char) := (words entries.toList).flatMap ofEntry

/-- The names that a tone of skin may follow. -/
def toned : List String := (words tonedNames.toList).map String.ofList

def tones : List (String × Char) := [
  ("_light_skin_tone", .ofNat 0x1F3FB), ("_medium-light_skin_tone", .ofNat 0x1F3FC),
  ("_medium_skin_tone", .ofNat 0x1F3FD), ("_medium-dark_skin_tone", .ofNat 0x1F3FE),
  ("_dark_skin_tone", .ofNat 0x1F3FF)]

/-- An emoji in a tone of skin.  The tone stands behind the first character and takes the place of
the sign for emoji. -/
def tint (tone : Char) : List Char → List Char
  | c :: '\uFE0F' :: s => c :: tone :: s
  | c :: s => c :: tone :: s
  | [] => []

/-- The name without a tone of skin behind it, and the tone. -/
def tone? (name : String) : Option (String × Char) :=
  tones.findSome? fun (suffix, tone) =>
    (cut? suffix.toList name.toList).bind fun (base, rest) =>
      if rest = [] then some (String.ofList base, tone) else none

def find? (name : String) : Option (List Char) :=
  match plain.lookup name, tone? name with
  | some emoji, _ => some emoji
  | none, some (base, tone) => if toned.contains base then (plain.lookup base).map (tint tone) else none
  | none, none => none

/-- The end of a name: how the emoji is to be shown, and how many characters the end takes. -/
def ending? (s : List Char) : Option (List Char × Nat) :=
  [("-emoji:", ['\uFE0F']), ("-text:", ['\uFE0E']), (":", [])].findSome? fun (mark, variant) =>
    (after? mark.toList s).map fun _ => (variant, mark.length)

/-- A name behind its first colon, how its emoji is to be shown, and how many characters all takes. -/
def name? : List Char → Option (List Char × List Char × Nat)
  | [] => none
  | c :: s =>
    match ending? (c :: s) with
    | some (variant, n) => some ([], variant, n)
    | none =>
      if isBlank c then none
      else (name? s).map fun (name, variant, n) => (c :: name, variant, n + 1)

/-- A name between colons at the front.  One that no emoji goes by is passed as it is. -/
def code? : Recogniser
  | ':' :: s => do
    let (name, variant, n) ← name? s
    match find? (String.ofList (lower name)) with
    | some emoji => return (n + 1, emoji ++ variant)
    | none => return (n + 1, ':' :: s.take n)
  | _ => none

/-- The text with emoji in the place of their names. -/
def replace (s : List Char) : List Char := rewrite code? s

end Emoji
end Console
end SvgIcon
