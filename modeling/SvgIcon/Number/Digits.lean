import SvgIcon.Text.Word

/-!
Runs of digits as they stand in written numbers of any base.  A single underscore may stand between
two digits; a run ends before anything else.
-/

namespace SvgIcon
namespace Numeral

open Text

def hexValue? (c : Char) : Option Nat :=
  if isAsciiDigit c then some (c.toNat - 48)
  else if 97 ≤ c.toNat && c.toNat ≤ 102 then some (c.toNat - 87)
  else if 65 ≤ c.toNat && c.toNat ≤ 70 then some (c.toNat - 55)
  else none

def isHexDigit (c : Char) : Bool := (hexValue? c).isSome

def valueIn (base : Nat) (digits : List Char) : Nat :=
  digits.foldl (fun n c => base * n + (hexValue? c).getD 0) 0

def hexNumber? (digits : List Char) : Option Nat :=
  if digits.all isHexDigit then some (valueIn 16 digits) else none

/-- Digits with single underscores between them, from behind the first digit on. -/
def moreDigits (isDigit : Char → Bool) : List Char → List Char × List Char
  | [] => ([], [])
  | '_' :: c :: s =>
    if isDigit c then
      let (digits, rest) := moreDigits isDigit s
      (c :: digits, rest)
    else ([], '_' :: c :: s)
  | c :: s =>
    if isDigit c then
      let (digits, rest) := moreDigits isDigit s
      (c :: digits, rest)
    else ([], c :: s)

/-- Digits with single underscores between them: the digits, and what follows. -/
def digits? (isDigit : Char → Bool) : List Char → Option (List Char × List Char)
  | [] => none
  | c :: s =>
    if isDigit c then
      let (digits, rest) := moreDigits isDigit s
      some (c :: digits, rest)
    else none

/-- The base that a letter behind a zero stands for, and its digits. -/
def base? (c : Char) : Option (Nat × (Char → Bool)) :=
  if c = 'x' then some (16, isHexDigit)
  else if c = 'o' then some (8, fun c => 48 ≤ c.toNat && c.toNat ≤ 55)
  else if c = 'b' then some (2, fun c => c = '0' || c = '1')
  else none

end Numeral
end SvgIcon
