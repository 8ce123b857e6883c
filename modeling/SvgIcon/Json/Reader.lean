import SvgIcon.Number.Digits
import SvgIcon.Number.Numeral
import SvgIcon.Text.Scan
import SvgIcon.Value.Basic

/-!
Reading JSON text.  Numbers with a point or an exponent are floating-point, all others whole
numbers of up to 4300 digits; `NaN` and `Infinity` are accepted as numbers; a key that is repeated
in an object keeps its first place and its last value.  Of several problems the leftmost is told.

Texts are made of characters.  An escape for half of a pair of units makes none, and a text with such
an escape is not read as anything: that there is one is told as a problem of its own.
-/

namespace SvgIcon
namespace Json

open Text

/-- What values stand in. -/
inductive Container
  | array
  | object
  deriving DecidableEq, Repr

/-- Why a text is not read. -/
inductive Problem
  | malformed
  | tooManyDigits
  /-- Arrays and objects stand too deep within each other, this one being the first too many. -/
  | tooDeep (container : Container)
  /-- Half of a pair of units stands on its own, so that a text is not one of characters. -/
  | unpaired
  deriving DecidableEq, Repr

def wanted {α : Type} : Option α → Except Problem α
  | some a => .ok a
  | none => .error .malformed

def isSpace (c : Char) : Bool := c = ' ' || c = '\t' || c = '\n' || c = '\r'

def isHighUnit (n : Nat) : Bool := 0xD800 ≤ n && n < 0xDC00

def isLowUnit (n : Nat) : Bool := 0xDC00 ≤ n && n < 0xE000

/-- The character of a unit that is no half of a pair. -/
def unitChar (n : Nat) : Except Problem Char :=
  if isHighUnit n || isLowUnit n then .error .unpaired else .ok (Char.ofNat n)

/-- The character that a backslash and this letter stand for. -/
def escaped? (c : Char) : Option Char :=
  if c = '"' || c = '\\' || c = '/' then some c
  else if c = 'b' then some '\x08'
  else if c = 'f' then some '\x0c'
  else if c = 'n' then some '\n'
  else if c = 'r' then some '\r'
  else if c = 't' then some '\t'
  else none

/-- The rest of a text after its opening quote, and what follows the closing one.  `high` is
the first half of a pair of units that waits for its second half. -/
def textFrom (high : Option Nat) : List Char → Except Problem (List Char × List Char)
  | [] => .error .malformed
  | '\\' :: 'u' :: a :: b :: c :: d :: rest => do
    let n ← wanted (Numeral.hexNumber? [a, b, c, d])
    match high with
    | some h =>
      if isLowUnit n then
        let (s, tail) ← textFrom none rest
        return (Char.ofNat (0x10000 + (h - 0xD800) * 0x400 + (n - 0xDC00)) :: s, tail)
      else .error .unpaired
    | none =>
      if isHighUnit n then textFrom (some n) rest
      else
        let c ← unitChar n
        let (s, tail) ← textFrom none rest
        return (c :: s, tail)
  | c :: rest =>
    if high.isSome then .error .unpaired
    else if c = '"' then .ok ([], rest)
    else if c = '\\' then
      match rest with
      | e :: rest => do
        let c ← wanted (escaped? e)
        let (s, tail) ← textFrom none rest
        return (c :: s, tail)
      | [] => .error .malformed
    else if c.toNat < 32 then .error .malformed
    else do
      let (s, tail) ← textFrom none rest
      return (c :: s, tail)

/-- The digits of a fraction, behind its point, if there is one. -/
def fraction (s : List Char) : Option (List Char) × List Char :=
  match s with
  | '.' :: rest =>
    if (rest.takeWhile isAsciiDigit).isEmpty then (none, s)
    else (some (rest.takeWhile isAsciiDigit), rest.dropWhile isAsciiDigit)
  | _ => (none, s)

/-- The value of an exponent, if there is one. -/
def exponent (s : List Char) : Option Int × List Char :=
  match s with
  | e :: rest =>
    if e = 'e' || e = 'E' then
      let (negative, tail) := Numeral.sign rest
      let digits := tail.takeWhile isAsciiDigit
      if digits.isEmpty then (none, s)
      else
        let n : Int := Numeral.value digits
        (some (if negative then -n else n), tail.dropWhile isAsciiDigit)
    else (none, s)
  | [] => (none, s)

/-- A number whose minus sign, if any, has been read.  A zero in front ends the whole part. -/
def number (negative : Bool) (s : List Char) : Except Problem (Value × List Char) :=
  let whole := if s.head? = some '0' then ['0'] else s.takeWhile isAsciiDigit
  if whole.isEmpty then .error .malformed
  else
    let (digits, rest) := fraction (s.drop whole.length)
    let (power, rest) := exponent rest
    if digits.isNone && power.isNone then
      if Numeral.maxDigits < whole.length then .error .tooManyDigits
      else
        let n : Int := Numeral.value whole
        .ok (.int (if negative then -n else n), rest)
    else
      let after := digits.getD []
      .ok (.float (Double.ofDecimal negative (Numeral.value (whole ++ after))
        (power.getD 0 - after.length)), rest)

def name? (s : List Char) : Option (Value × List Char) :=
  [("null", Value.null), ("true", .bool true), ("false", .bool false), ("NaN", .float .nan),
    ("Infinity", .float (.infinite false)), ("-Infinity", .float (.infinite true))].findSome?
    fun (name, v) => (after? name.toList s).map (v, ·)

def skipSpace (s : List Char) : List Char := s.dropWhile isSpace

mutual
/-- A value at the front of a text that has no blanks in front of it.  The first argument bounds
how deep values stand within each other, the second the steps that are taken. -/
def value : Nat → Nat → List Char → Except Problem (Value × List Char)
  | _, 0, _ => .error .malformed
  | _, _ + 1, [] => .error .malformed
  | depth, steps + 1, c :: s =>
    if c = '"' then do
      let (t, rest) ← textFrom none s
      return (.text (String.ofList t), rest)
    else if c = '[' then
      match depth, skipSpace s with
      | 0, _ => .error (.tooDeep .array)
      | _ + 1, ']' :: rest => .ok (.array [], rest)
      | depth + 1, s => (items depth steps s).map fun (found, rest) => (.array found, rest)
    else if c = '\x7b' then
      match depth, skipSpace s with
      | 0, _ => .error (.tooDeep .object)
      | _ + 1, '\x7d' :: rest => .ok (.object [], rest)
      | depth + 1, s =>
        (fields depth steps s).map fun (found, rest) => (.object (Assoc.ofPairs found), rest)
    else
      match name? (c :: s) with
      | some answer => .ok answer
      | none => if c = '-' then number true s else number false (c :: s)

def items : Nat → Nat → List Char → Except Problem (List Value × List Char)
  | _, 0, _ => .error .malformed
  | depth, steps + 1, s => do
    let (v, rest) ← value depth steps s
    match skipSpace rest with
    | ',' :: rest =>
      let (more, rest) ← items depth steps (skipSpace rest)
      return (v :: more, rest)
    | ']' :: rest => return ([v], rest)
    | _ => .error .malformed

def fields : Nat → Nat → List Char → Except Problem (List (String × Value) × List Char)
  | _, 0, _ => .error .malformed
  | depth, steps + 1, s => do
    let rest ← wanted (after? ['"'] s)
    let (key, rest) ← textFrom none rest
    let rest ← wanted (after? [':'] (skipSpace rest))
    let (v, rest) ← value depth steps (skipSpace rest)
    match skipSpace rest with
    | ',' :: rest =>
      let (more, rest) ← fields depth steps (skipSpace rest)
      return ((String.ofList key, v) :: more, rest)
    | '\x7d' :: rest => return ([(String.ofList key, v)], rest)
    | _ => .error .malformed
end

/-- The value of a JSON text, which may have blanks around it.  Values may stand so deep within each
other; the length of the text bounds the steps. -/
def readWithin (depth : Nat) (s : List Char) : Except Problem Value := do
  let (v, rest) ← value depth (2 * s.length + 2) (skipSpace s)
  if (skipSpace rest).isEmpty then return v else .error .malformed

def read? (s : List Char) : Option Value := (readWithin s.length s).toOption

end Json
end SvgIcon
