import SvgIcon.Number.Digits
import SvgIcon.Number.Numeral
import SvgIcon.Text.CharacterName

/-!
What literals are made of: numbers, texts, and the gaps between them.
-/

namespace SvgIcon
namespace Console
namespace Literal

open Text

/-! ## Gaps -/

/-- What follows a gap: blanks, and line breaks behind a backslash.  Within brackets all line breaks
belong to it, and comments, too; `commented` says that one has begun. -/
def behindGap (inBrackets commented : Bool) : List Char → List Char
  | [] => []
  | c :: s =>
    if commented then behindGap inBrackets (c ≠ '\n') s
    else if c = ' ' || c = '\t' || c = '\x0c' || (inBrackets && c = '\n') then
      behindGap inBrackets false s
    else if inBrackets && c = '#' then behindGap inBrackets true s
    else if c = '\\' then
      match s with
      | '\n' :: more => behindGap inBrackets false more
      | _ => c :: s
    else c :: s

def skipGap (inBrackets : Bool) (s : List Char) : List Char := behindGap inBrackets false s

/-- The text from its first line on that is neither empty nor a comment.  That line must not be
indented; a form feed takes back the blanks before it, though none before a backslash, for which
`held` stands. -/
def fromFirstLine? (commented indented held : Bool) : List Char → Option (List Char)
  | [] => none
  | c :: s =>
    if c = '\n' then fromFirstLine? false false false s
    else if commented || c = '#' then fromFirstLine? true indented held s
    else if c = ' ' || c = '\t' then fromFirstLine? false true held s
    else if c = '\x0c' then fromFirstLine? false false held s
    else if c = '\\' then
      match s with
      | '\n' :: more => fromFirstLine? false indented (indented || held) more
      | _ => none
    else if indented || held then none
    else some (c :: s)

/-! ## Numbers -/

inductive Number
  | whole (n : Nat)
  | real
  | imaginary
  deriving DecidableEq, Repr

/-- A number that an imaginary one may be added to. -/
def Number.isSummand : Number → Bool
  | whole n => (Double.ofInt? n).isSome
  | real => true
  | imaginary => false

def based? : List Char → Option (Number × List Char)
  | '0' :: b :: s => do
    let (base, isDigit) ← Numeral.base? b.toLower
    let (digits, rest) ← Numeral.digits? isDigit ((after? ['_'] s).getD s)
    return (.whole (Numeral.valueIn base digits), rest)
  | _ => none

/-- The digits of a number, if they are those of a whole one, and what follows them and a point among
or around them. -/
def mantissa? (s : List Char) : Option (Option (List Char) × List Char) :=
  match Numeral.digits? isAsciiDigit s, s with
  | some (_, '.' :: rest), _ =>
    some (none, ((Numeral.digits? isAsciiDigit rest).map Prod.snd).getD rest)
  | some (digits, rest), _ => some (some digits, rest)
  | none, '.' :: rest => (Numeral.digits? isAsciiDigit rest).map fun (_, rest) => (none, rest)
  | none, _ => none

/-- What follows an exponent, if there is one. -/
def behindExponent? : List Char → Option (List Char)
  | e :: s =>
    if e = 'e' || e = 'E' then (Numeral.digits? isAsciiDigit (Numeral.sign s).2).map Prod.snd
    else none
  | [] => none

/-- A whole number in decimal.  No zero may lead other digits. -/
def whole? (digits : List Char) : Option Number :=
  if digits.all (· = '0') then some (.whole 0)
  else if digits.head? = some '0' || Numeral.maxDigits < digits.length then none
  else some (.whole (Numeral.value digits))

/-- A number in decimal.  It is imaginary if a `j` stands behind it. -/
def decimal? (s : List Char) : Option (Number × List Char) := do
  let (digits, rest) ← mantissa? s
  let exponent := behindExponent? rest
  match exponent.getD rest, exponent.isSome, digits with
  | 'j' :: rest, _, _ => return (.imaginary, rest)
  | 'J' :: rest, _, _ => return (.imaginary, rest)
  | rest, false, some digits => return (← whole? digits, rest)
  | rest, _, _ => return (.real, rest)

/-- A number without sign, and what follows. -/
def number? (s : List Char) : Option (Number × List Char) := (based? s).or (decimal? s)

example : ["0x1_f", "0_0", "1_0.5e3,", "7J", "07"].map (fun s => number? s.toList) =
    [some (.whole 31, []), some (.whole 0, []), some (.real, [',']), some (.imaginary, []), none] := by
  decide +kernel

/-! ## Texts -/

def isQuote (c : Char) : Bool := c = '\'' || c = '"'

/-- A text up to the quote that closes it, and what follows.  A long one is closed by three quotes
and may have line breaks. -/
def closed? (quote : Char) (isLong : Bool) : List Char → Option (List Char × List Char)
  | [] => none
  | '\\' :: c :: s => (closed? quote isLong s).map fun (inner, rest) => ('\\' :: c :: inner, rest)
  | c :: s =>
    let closing := if isLong then [quote, quote, quote] else [quote]
    match after? closing (c :: s) with
    | some rest => some ([], rest)
    | none =>
      if c = '\n' && !isLong then none
      else (closed? quote isLong s).map fun (inner, rest) => (c :: inner, rest)

/-- The letters before a quote: whether the text consists of bytes, and whether backslashes are
characters like all others in it. -/
def textKind? (letters : List Char) : Option (Bool × Bool) :=
  let kinds := [("", false, false), ("u", false, false), ("r", false, true), ("b", true, false),
    ("br", true, true), ("rb", true, true)]
  kinds.lookup (String.ofList (letters.map Char.toLower))

/-- The number of hexadecimal digits that this letter asks for behind a backslash. -/
def codeLength? (ofBytes : Bool) (c : Char) : Option Nat :=
  if c = 'x' then some 2
  else if ofBytes then none
  else if c = 'u' then some 4
  else if c = 'U' then some 8
  else none

/-- What stands behind a backslash makes sense: the code or the name of a character, or anything
that is neither. -/
def isEscape (ofBytes : Bool) (c : Char) (s : List Char) : Bool :=
  match codeLength? ofBytes c with
  | some n =>
    (s.take n).length = n && (Numeral.hexNumber? (s.take n)).any fun code => decide (code < 0x110000)
  | none =>
    ofBytes || c ≠ 'N' ||
      match s with
      | '\x7b' :: name => (cut? ['\x7d'] name).any fun (name, _) => isCharacterName name
      | _ => false

/-- Every backslash makes sense with what stands behind it. -/
def escapesFit (ofBytes : Bool) : List Char → Bool
  | '\\' :: c :: s => isEscape ofBytes c s && escapesFit ofBytes s
  | _ :: s => escapesFit ofBytes s
  | [] => true

/-- A text in quotes: whether it consists of bytes, and what follows.  Bytes are written in ASCII. -/
def text? (s : List Char) : Option (Bool × List Char) := do
  let (ofBytes, isRaw) ← textKind? (s.takeWhile isAsciiLetter)
  match s.dropWhile isAsciiLetter with
  | quote :: rest =>
    if isQuote quote then
      let long := after? [quote, quote] rest
      let (inner, rest) ← closed? quote long.isSome (long.getD rest)
      if (isRaw || escapesFit ofBytes inner) && (!ofBytes || inner.all (·.toNat < 128)) then
        return (ofBytes, rest)
      else none
    else none
  | [] => none

example : ["r'\\d' 1", "b'\\x4'", "\"\"\"a\n\"\"\""].map (fun s => text? s.toList) =
    [some (false, [' ', '1']), none, some (false, [])] := by
  decide +kernel

end Literal
end Console
end SvgIcon
