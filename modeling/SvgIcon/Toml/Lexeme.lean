import SvgIcon.Number.Digits
import SvgIcon.Json.Reader

/-!
Keys, texts, numbers and moments of settings files.
-/

namespace SvgIcon
namespace Toml

open Text

/-- Why a settings text cannot be read: it does not follow the grammar, or a whole number has more
digits than are read. -/
inductive Error
  | malformed
  | tooManyDigits
  deriving DecidableEq, Repr

def isSpace (c : Char) : Bool := c = ' ' || c = '\t'

def isSpaceOrBreak (c : Char) : Bool := isSpace c || c = '\n'

/-- Controls other than the tab, which may stand in no text and no comment. -/
def isControl (c : Char) : Bool := (c.toNat < 32 && c ≠ '\t') || c.toNat = 127

/-- A character that a text may not hold.  A text of several lines may hold line feeds. -/
def isIllegal (multiline : Bool) (c : Char) : Bool := isControl c && !(multiline && c = '\n')

def skipSpace (s : List Char) : List Char := s.dropWhile isSpace

/-! ## Texts -/

/-- A character given by its code point, which must not be half of a pair. -/
def scalar? (digits : List Char) : Option Char := do
  let n ← Numeral.hexNumber? digits
  if n < 0xD800 || (0xDFFF < n && n < 0x110000) then return Char.ofNat n else none

def escape? (c : Char) : Option Char :=
  if c = 'b' then some '\x08'
  else if c = 't' then some '\t'
  else if c = 'n' then some '\n'
  else if c = 'f' then some '\x0c'
  else if c = 'r' then some '\r'
  else if c = '"' || c = '\\' then some c
  else none

/-- Where the reader of a text with escapes stands: in the text, behind a backslash that has to be
followed by a line break, or in the blanks that such a break takes along. -/
inductive TextState
  | inside
  | beforeBreak
  | behindBreak
  deriving DecidableEq

def prepend (c : Char) : Except Error (List Char × List Char) → Except Error (List Char × List Char) :=
  Except.map fun (s, rest) => (c :: s, rest)

/-- The rest of a text in double quotes, and what follows its closing quotes. -/
def basicText (multiline : Bool) :
    TextState → List Char → Except Error (List Char × List Char)
  | _, [] => .error .malformed
  | .beforeBreak, c :: s =>
    if isSpace c then basicText multiline .beforeBreak s
    else if c = '\n' then basicText multiline .behindBreak s
    else .error .malformed
  | _, '\\' :: 'u' :: a :: b :: c :: d :: s =>
    match scalar? [a, b, c, d] with
    | some x => prepend x (basicText multiline .inside s)
    | none => .error .malformed
  | _, '\\' :: 'U' :: a :: b :: c :: d :: e :: f :: g :: h :: s =>
    match scalar? [a, b, c, d, e, f, g, h] with
    | some x => prepend x (basicText multiline .inside s)
    | none => .error .malformed
  | _, '\\' :: e :: s =>
    if multiline && isSpace e then basicText multiline .beforeBreak s
    else if multiline && e = '\n' then basicText multiline .behindBreak s
    else
      match escape? e with
      | some x => prepend x (basicText multiline .inside s)
      | none => .error .malformed
  | state, c :: s =>
    if state = .behindBreak && isSpaceOrBreak c then basicText multiline .behindBreak s
    else if c = '"' then
      if !multiline then .ok ([], s)
      else
        match after? ['"', '"'] s with
        | some rest => .ok ([], rest)
        | none => prepend '"' (basicText multiline .inside s)
    else if c = '\\' || isIllegal multiline c then .error .malformed
    else prepend c (basicText multiline .inside s)

/-- The rest of a text without escapes up to its closing quotes. -/
def literalText (multiline : Bool) (s : List Char) : Except Error (List Char × List Char) :=
  match cut? (if multiline then ['\'', '\'', '\''] else ['\'']) s with
  | some (text, rest) => if text.any (isIllegal multiline) then .error .malformed else .ok (text, rest)
  | none => .error .malformed

/-- Up to two quotes right behind the closing quotes of a text of several lines belong to it. -/
def extraQuotes (quote : Char) (text rest : List Char) : List Char × List Char :=
  let extra := (rest.takeWhile (· = quote)).take 2
  (text ++ extra, rest.drop extra.length)

/-- A line feed right behind the opening quotes is not part of the text. -/
def dropFirstBreak : List Char → List Char
  | '\n' :: s => s
  | s => s

/-- A text in quotes of any kind; the first argument says whether several lines are allowed. -/
def text (several : Bool) (s : List Char) : Except Error (List Char × List Char) :=
  match s with
  | '"' :: rest =>
    match if several then after? ['"', '"'] rest else none with
    | some rest => do
      let (t, rest) ← basicText true .inside (dropFirstBreak rest)
      return extraQuotes '"' t rest
    | none => basicText false .inside rest
  | '\'' :: rest =>
    match if several then after? ['\'', '\''] rest else none with
    | some rest => do
      let (t, rest) ← literalText true (dropFirstBreak rest)
      return extraQuotes '\'' t rest
    | none => literalText false rest
  | _ => .error .malformed

/-! ## Keys -/

def isBareKeyChar (c : Char) : Bool := isAsciiLetter c || isAsciiDigit c || c = '-' || c = '_'

/-- One part of a key: bare, or in quotes on one line. -/
def keyPart (s : List Char) : Except Error (String × List Char) :=
  match s with
  | [] => .error .malformed
  | c :: _ =>
    if isBareKeyChar c then .ok (String.ofList (s.takeWhile isBareKeyChar), s.dropWhile isBareKeyChar)
    else (text false s).map fun (t, rest) => (String.ofList t, rest)

/-- The parts of a key with points between them.  The first argument bounds their count. -/
def key : Nat → List Char → Except Error (List String × List Char)
  | 0, _ => .error .malformed
  | bound + 1, s => do
    let (part, rest) ← keyPart s
    match skipSpace rest with
    | '.' :: rest =>
      let (parts, rest) ← key bound (skipSpace rest)
      return (part :: parts, rest)
    | rest => return ([part], rest)

/-! ## Numbers -/

def based? : List Char → Option (Value × List Char)
  | '0' :: b :: s => do
    let (base, isDigit) ← Numeral.base? b
    let (digits, rest) ← Numeral.digits? isDigit s
    return (.int (Numeral.valueIn base digits), rest)
  | _ => none

/-- The whole part of a number: a zero, or digits that do not start with one. -/
def wholePart? (s : List Char) : Option (List Char × List Char) :=
  match s with
  | '0' :: rest => some (['0'], rest)
  | s => Numeral.digits? isAsciiDigit s

/-- The digits behind a point, if there are any. -/
def fractionPart (s : List Char) : Option (List Char) × List Char :=
  match s with
  | '.' :: rest =>
    match Numeral.digits? isAsciiDigit rest with
    | some (digits, rest) => (some digits, rest)
    | none => (none, s)
  | _ => (none, s)

/-- The exponent, if there is one. -/
def exponentPart (s : List Char) : Option Int × List Char :=
  match s with
  | e :: rest =>
    if e = 'e' || e = 'E' then
      let (negative, rest) := Numeral.sign rest
      match Numeral.digits? isAsciiDigit rest with
      | some (digits, rest) =>
        let n : Int := Numeral.value digits
        (some (if negative then -n else n), rest)
      | none => (none, s)
    else (none, s)
  | [] => (none, s)

def decimal? (s : List Char) : Option (Except Error (Value × List Char)) := do
  let (negative, rest) := Numeral.sign s
  let (whole, rest) ← wholePart? rest
  let (fraction, rest) := fractionPart rest
  let (power, rest) := exponentPart rest
  if fraction.isNone && power.isNone then
    if Numeral.maxDigits < whole.length then return .error .tooManyDigits
    else
      let n : Int := Numeral.value whole
      return .ok (.int (if negative then -n else n), rest)
  else
    let after := fraction.getD []
    return .ok (.float (Double.ofDecimal negative (Numeral.value (whole ++ after))
      (power.getD 0 - after.length)), rest)

/-- Numbers that are written by name. -/
def namedNumber? (s : List Char) : Option (Value × List Char) :=
  let (negative, rest) := Numeral.sign s
  match after? "inf".toList rest with
  | some rest => some (.float (.infinite negative), rest)
  | none => (after? "nan".toList rest).map fun rest => (.float .nan, rest)

/-! ## Moments -/

def fixed? (count : Nat) (s : List Char) : Option (Nat × List Char) :=
  let digits := s.take count
  if digits.length = count && digits.all isAsciiDigit then
    some (Numeral.value digits, s.drop count)
  else none

/-- A fraction of a second in microseconds; further digits are dropped. -/
def microseconds (s : List Char) : Nat × List Char :=
  match s with
  | '.' :: rest =>
    let digits := rest.takeWhile isAsciiDigit
    if digits.isEmpty then (0, s)
    else
      let kept := digits.take 6
      (Numeral.value (kept ++ List.replicate (6 - kept.length) '0'), rest.drop digits.length)
  | _ => (0, s)

def timeOfDay? (s : List Char) : Option (TimeOfDay × List Char) := do
  let (hour, s) ← fixed? 2 s
  let (minute, s) ← fixed? 2 (← after? [':'] s)
  let (second, s) ← fixed? 2 (← after? [':'] s)
  if hour < 24 && minute < 60 && second < 60 then
    let (microsecond, s) := microseconds s
    return ({ hour, minute, second, microsecond }, s)
  else none

def offset? (s : List Char) : Option (Int × List Char) :=
  match s with
  | c :: rest =>
    if c = 'Z' || c = 'z' then some (0, rest)
    else if c = '+' || c = '-' then do
      let (hours, s) ← fixed? 2 rest
      let (minutes, s) ← fixed? 2 (← after? [':'] s)
      if hours < 24 && minutes < 60 then
        let n : Int := 60 * hours + minutes
        return (if c = '-' then -n else n, s)
      else none
    else none
  | [] => none

/-- The day of a moment, which need not be in the calendar. -/
def day? (s : List Char) : Option (Day × List Char) := do
  let (year, s) ← fixed? 4 s
  let (month, s) ← fixed? 2 (← after? ['-'] s)
  let (day, s) ← fixed? 2 (← after? ['-'] s)
  if 1 ≤ month && month ≤ 12 && 1 ≤ day && day ≤ 31 then return ({ year, month, day }, s)
  else none

def timeBehind? (s : List Char) : Option (TimeOfDay × List Char) :=
  match s with
  | c :: rest => if c = 'T' || c = 't' || c = ' ' then timeOfDay? rest else none
  | [] => none

/-- A moment.  A day that the calendar does not have is an error. -/
def moment? (s : List Char) : Option (Except Error (Value × List Char)) :=
  match day? s with
  | some (d, rest) =>
    let (m, rest) :=
      match timeBehind? rest with
      | none => (Moment.day d, rest)
      | some (t, rest) =>
        match offset? rest with
        | some (offset, rest) => (Moment.zoned d t offset, rest)
        | none => (Moment.local d t, rest)
    some (if d.isValid then .ok (.moment m, rest) else .error .malformed)
  | none => (timeOfDay? s).map fun (t, rest) => .ok (.moment (.time t), rest)

end Toml
end SvgIcon
