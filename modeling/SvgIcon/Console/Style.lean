import SvgIcon.Number.Numeral
import SvgIcon.Text.Blank
import SvgIcon.Text.Case
import SvgIcon.Text.Scan
import SvgIcon.Value.Assoc

/-!
Styles of text by their definitions: attributes that are on or off, two colours and a link.  A style
may be defined in many ways and has one name; a definition that is none is its own name.
-/

namespace SvgIcon
namespace Console

open Text

structure Style where
  /-- Attributes and whether they are on. -/
  attributes : Assoc Bool := []
  color : Option (List Char) := none
  background : Option (List Char) := none
  link : Option (List Char) := none
  deriving Repr

namespace Style

/-- The attributes in the order in which they are named. -/
def attributeNames : List String := [
  "bold", "dim", "italic", "underline", "blink", "blink2", "reverse", "conceal", "strike",
  "underline2", "frame", "encircle", "overline"]

def abbreviations : Assoc String := [
  ("b", "bold"), ("d", "dim"), ("i", "italic"), ("u", "underline"), ("r", "reverse"),
  ("c", "conceal"), ("s", "strike"), ("uu", "underline2"), ("o", "overline")]

def attribute? (word : String) : Option String :=
  if attributeNames.contains word then some word else abbreviations.lookup word

def colorNames : List String := [
  "black", "red", "green", "yellow", "blue", "magenta", "cyan", "white", "bright_black",
  "bright_red", "bright_green", "bright_yellow", "bright_blue", "bright_magenta", "bright_cyan",
  "bright_white", "grey0", "gray0", "navy_blue", "dark_blue", "blue3", "blue1", "dark_green",
  "deep_sky_blue4", "dodger_blue3", "dodger_blue2", "green4", "spring_green4", "turquoise4",
  "deep_sky_blue3", "dodger_blue1", "green3", "spring_green3", "dark_cyan", "light_sea_green",
  "deep_sky_blue2", "deep_sky_blue1", "spring_green2", "cyan3", "dark_turquoise", "turquoise2",
  "green1", "spring_green1", "medium_spring_green", "cyan2", "cyan1", "dark_red", "deep_pink4",
  "purple4", "purple3", "blue_violet", "orange4", "grey37", "gray37", "medium_purple4",
  "slate_blue3", "royal_blue1", "chartreuse4", "dark_sea_green4", "pale_turquoise4",
  "steel_blue", "steel_blue3", "cornflower_blue", "chartreuse3", "cadet_blue", "sky_blue3",
  "steel_blue1", "pale_green3", "sea_green3", "aquamarine3", "medium_turquoise", "chartreuse2",
  "sea_green2", "sea_green1", "aquamarine1", "dark_slate_gray2", "dark_magenta", "dark_violet",
  "purple", "light_pink4", "plum4", "medium_purple3", "slate_blue1", "yellow4", "wheat4",
  "grey53", "gray53", "light_slate_grey", "light_slate_gray", "medium_purple",
  "light_slate_blue", "dark_olive_green3", "dark_sea_green", "light_sky_blue3", "sky_blue2",
  "dark_sea_green3", "dark_slate_gray3", "sky_blue1", "chartreuse1", "light_green",
  "pale_green1", "dark_slate_gray1", "red3", "medium_violet_red", "magenta3", "dark_orange3",
  "indian_red", "hot_pink3", "medium_orchid3", "medium_orchid", "medium_purple2",
  "dark_goldenrod", "light_salmon3", "rosy_brown", "grey63", "gray63", "medium_purple1",
  "gold3", "dark_khaki", "navajo_white3", "grey69", "gray69", "light_steel_blue3",
  "light_steel_blue", "yellow3", "dark_sea_green2", "light_cyan3", "light_sky_blue1",
  "green_yellow", "dark_olive_green2", "dark_sea_green1", "pale_turquoise1", "deep_pink3",
  "magenta2", "hot_pink2", "orchid", "medium_orchid1", "orange3", "light_pink3", "pink3",
  "plum3", "violet", "light_goldenrod3", "tan", "misty_rose3", "thistle3", "plum2", "khaki3",
  "light_goldenrod2", "light_yellow3", "grey84", "gray84", "light_steel_blue1", "yellow2",
  "dark_olive_green1", "honeydew2", "light_cyan1", "red1", "deep_pink2", "deep_pink1",
  "magenta1", "orange_red1", "indian_red1", "hot_pink", "dark_orange", "salmon1", "light_coral",
  "pale_violet_red1", "orchid2", "orchid1", "orange1", "sandy_brown", "light_salmon1",
  "light_pink1", "pink1", "plum1", "gold1", "navajo_white1", "misty_rose1", "thistle1",
  "yellow1", "light_goldenrod1", "khaki1", "wheat1", "cornsilk1", "grey100", "gray100", "grey3",
  "gray3", "grey7", "gray7", "grey11", "gray11", "grey15", "gray15", "grey19", "gray19",
  "grey23", "gray23", "grey27", "gray27", "grey30", "gray30", "grey35", "gray35", "grey39",
  "gray39", "grey42", "gray42", "grey46", "gray46", "grey50", "gray50", "grey54", "gray54",
  "grey58", "gray58", "grey62", "gray62", "grey66", "gray66", "grey70", "gray70", "grey74",
  "gray74", "grey78", "gray78", "grey82", "gray82", "grey85", "gray85", "grey89", "gray89",
  "grey93", "gray93"]

/-- Why a definition defines no style. -/
inductive Problem
  | unknown
  /-- Something that is no number stands for a part of a colour. -/
  | notNumber
  deriving DecidableEq, Repr

/-- The text between a word with an opening parenthesis and a closing one at the end. -/
def between? (word : String) (s : List Char) : Option (List Char) := do
  let inner ← after? (word ++ "(").toList s
  if inner.getLast? = some ')' then some inner.dropLast else none

/-- A sum of red, green and blue: three numbers up to 255 with commas between them. -/
def checkSum (s : List Char) : Except Problem Unit :=
  if s = [] || !s.all fun c => c = ',' || (digitValue? c).isSome then .error .unknown
  else
    let parts := pieces ',' s
    if parts.length ≠ 3 then .error .unknown
    else
      match parts.mapM Numeral.int? with
      | none => .error .notNumber
      | some numbers => if numbers.all fun n => decide (n ≤ 255) then .ok () else .error .unknown

/-- The name of the colour that a word stands for. -/
def colorOf (word : List Char) : Except Problem (List Char) :=
  let name := lower word
  let isHex (c : Char) : Bool := isAsciiDigit c || ('a' ≤ c && c ≤ 'f')
  if name = "default".toList || colorNames.contains (String.ofList name) then .ok name
  else
    match name, between? "color" name, between? "rgb" name with
    | '#' :: digits, _, _ =>
      if digits.length = 6 && digits.all isHex then .ok name else .error .unknown
    | _, some digits, _ =>
      if digits ≠ [] && digits.length ≤ 3 && digits.all isAsciiDigit &&
        Numeral.value digits ≤ 255 then .ok name else .error .unknown
    | _, _, some sum => (checkSum sum).map fun _ => name
    | _, _, _ => .error .unknown

/-- The style that words define, given what the words before them have defined. -/
def ofWords (style : Style) : List (List Char) → Except Problem Style
  | [] => .ok style
  | word :: rest =>
    match String.ofList (lower word), rest with
    | "on", [] | "not", [] | "link", [] => .error .unknown
    | "on", color :: rest => do
      ofWords { style with background := some (← colorOf color) } rest
    | "not", name :: rest =>
      match attribute? (String.ofList name) with
      | some a => ofWords { style with attributes := Assoc.put a false style.attributes } rest
      | none => .error .unknown
    | "link", target :: rest => ofWords { style with link := some target } rest
    | name, rest =>
      match attribute? name with
      | some a => ofWords { style with attributes := Assoc.put a true style.attributes } rest
      | none => do ofWords { style with color := some (← colorOf word) } rest

def nameWords (s : Style) : List (List Char) :=
  (attributeNames.flatMap fun a =>
    match s.attributes.lookup a with
    | some on => if on then [a.toList] else ["not".toList, a.toList]
    | none => []) ++
  s.color.toList ++
  (s.background.toList.flatMap fun color => ["on".toList, color]) ++
  (s.link.toList.flatMap fun target => ["link".toList, target])

/-- The style that is no style. -/
def noneName : List Char := "none".toList

def name (s : Style) : List Char :=
  if s.nameWords.isEmpty then noneName else join [' '] s.nameWords

/-- The one name of what a definition defines; none if a number in it is no number. -/
def canonical? (definition : List Char) : Option (List Char) :=
  if trim definition = noneName then some noneName
  else
    match ofWords {} (words definition) with
    | .ok style => some style.name
    | .error .unknown => some (lower (trim definition))
    | .error .notNumber => none

end Style
end Console
end SvgIcon
