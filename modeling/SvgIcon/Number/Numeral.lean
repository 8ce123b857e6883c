import SvgIcon.Number.Decimal
import SvgIcon.Text.Blank
import SvgIcon.Text.Word

/-!
Numbers read from settings and arguments.  Digits of every script count, a single underscore
may stand between two digits, and blanks around the number are ignored.
-/

namespace SvgIcon
namespace Numeral

open Text

/-- Blanks that may stand around a number: all but the separators U+001C to U+001F. -/
def isPadding (c : Char) : Bool := isBlank c && !(28 ≤ c.toNat && c.toNat ≤ 31)

/-- The text with every digit as an ASCII digit, and padding off its ends. -/
def normalize (s : List Char) : List Char :=
  (trimEnd isPadding (trimStart isPadding s)).map fun c =>
    match digitValue? c with
    | some n => Char.ofNat (48 + n)
    | none => c

/-- The text without its underscores, each of which has to stand between two digits.  The
first argument says whether a digit came right before. -/
def dropUnderscores? : Bool → List Char → Option (List Char)
  | _, [] => some []
  | afterDigit, '_' :: s =>
    match s with
    | c :: _ => if afterDigit && isAsciiDigit c then dropUnderscores? false s else none
    | [] => none
  | _, c :: s => (dropUnderscores? (isAsciiDigit c) s).map (c :: ·)

def value (digits : List Char) : Nat := digits.foldl (fun n c => 10 * n + (c.toNat - 48)) 0

/-- An optional sign: whether it is a minus, and what follows. -/
def sign : List Char → Bool × List Char
  | '-' :: s => (true, s)
  | '+' :: s => (false, s)
  | s => (false, s)

/-- The longest whole number that is read or written, in digits. -/
def maxDigits : Nat := 4300

/-- The first number that has more digits than that. -/
def firstTooLong : Nat := Nat.pow 10 maxDigits

/-- The number has few enough digits to be written. -/
def fits (i : Int) : Bool := decide (i.natAbs < firstTooLong)

def int? (s : List Char) : Option Int := do
  let (negative, digits) := sign (← dropUnderscores? false (normalize s))
  if digits.isEmpty || !digits.all isAsciiDigit || maxDigits < digits.length then none
  else return if negative then -(value digits : Int) else value digits

/-- An exponent: nothing, or `e`, an optional sign and digits. -/
def exponent? : List Char → Option Int
  | [] => some 0
  | c :: s =>
    let (negative, digits) := sign s
    if (c = 'e' || c = 'E') && !digits.isEmpty && digits.all isAsciiDigit then
      some (if negative then -(value digits : Int) else value digits)
    else none

/-- A floating-point number without sign: digits with or without a point among or around
them, and an exponent. -/
def unsignedDouble? (negative : Bool) (s : List Char) : Option Double := do
  let whole := s.takeWhile isAsciiDigit
  let rest := s.dropWhile isAsciiDigit
  let (fraction, tail) :=
    match rest with
    | '.' :: t => (t.takeWhile isAsciiDigit, t.dropWhile isAsciiDigit)
    | _ => ([], rest)
  if whole.isEmpty && fraction.isEmpty then none
  else
    let exponent ← exponent? tail
    return Double.ofDecimal negative (value (whole ++ fraction)) (exponent - fraction.length)

/-- A floating-point number, with the names of infinity and of the number that is none. -/
def double? (s : List Char) : Option Double := do
  let (negative, rest) := sign (← dropUnderscores? false (normalize s))
  let name := String.ofList (rest.map Char.toLower)
  if name = "inf" || name = "infinity" then return .infinite negative
  else if name = "nan" then return .nan
  else unsignedDouble? negative rest

end Numeral
end SvgIcon
