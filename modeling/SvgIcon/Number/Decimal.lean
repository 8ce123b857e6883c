import SvgIcon.Number.Double

/-!
Decimal texts of floating-point numbers.

A number is written with the fewest digits that read back as the same number, and of those
with the nearest to it.  `Double.shortest` tries one digit, two digits and so on: of each
count only the two neighbours of the number can be nearest.  What it answers has been read
back, so a text always means the number that it was written for.
-/

namespace SvgIcon
namespace Double

/-- The number `digits * 10 ^ exponent`, rounded.  Exponents far outside the range of the
format are answered without computing the power. -/
def ofDecimal (negative : Bool) (digits : Nat) (exponent : Int) : Double :=
  if digits = 0 then signedZero negative
  else if 400 < exponent then infinite negative
  else if exponent + (digits.log2 / 3 + 1 : Nat) < -400 then signedZero negative
  else if 0 ≤ exponent then ofRatio negative (digits * Nat.pow 10 exponent.toNat) 1
  else ofRatio negative digits (Nat.pow 10 (-exponent).toNat)

/-- Digits, and the power of ten that they are multiplied with. -/
structure Decimal where
  digits : Nat
  exponent : Int
  deriving DecidableEq, Repr

/-- The least `k` for which the magnitude is below 10 ^ k.  The estimate from the binary
length is at most two off. -/
def decimalPoint (units : Nat) : Int :=
  let estimate := ((units.log2 : Int) - 1074) * 30103 / 100000
  let below (k : Int) : Bool :=
    if 0 ≤ k then units < Nat.pow 10 k.toNat * unitsInOne
    else units * Nat.pow 10 (-k).toNat < unitsInOne
  ([estimate - 1, estimate, estimate + 1, estimate + 2].find? below).getD (estimate + 3)

/-- The magnitude divided by 10 ^ exponent, as a whole part and twice what is left over
compared with the divisor. -/
def onGrid (units : Nat) (exponent : Int) : Nat × Ordering :=
  let num := if exponent < 0 then units * Nat.pow 10 (-exponent).toNat else units
  let den := if exponent < 0 then unitsInOne else Nat.pow 10 exponent.toNat * unitsInOne
  (num / den, compare (2 * (num % den)) den)

/-- The nearest decimal with the given exponent that reads back as the number of this rank.
Of two equally near ones the even one is taken. -/
def nearestDecimal? (rank : Fin rankCount) (exponent : Int) : Option Decimal :=
  let (low, side) := onGrid (units rank) exponent
  let readsBack (digits : Nat) : Bool := ofDecimal false digits exponent = finite false rank
  let lowFirst := side = .lt ∨ (side = .eq ∧ low % 2 = 0)
  let candidates := if lowFirst then [low, low + 1] else [low + 1, low]
  (candidates.find? readsBack).map fun digits => ⟨digits, exponent⟩

/-- The shortest decimal that reads back as the number of this rank.  Behind the last try
stands the exact value, which needs no search. -/
def shortest (rank : Fin rankCount) : Decimal :=
  let point := decimalPoint (units rank)
  ((List.range 17).findSome? fun count => nearestDecimal? rank (point - (count + 1 : Nat))).getD
    ⟨units rank * Nat.pow 5 1074, -1074⟩

def digitText (n : Nat) : List Char := Nat.toDigits 10 n

/-- How a number is laid out: the exponents of its first digit that are written without an
exponent, and the least count of digits of an exponent. -/
structure NumberLayout where
  leastPositional : Int
  mostPositional : Int
  exponentWidth : Nat

/-- Numbers from 0.0001 up to, but not including, 10 ^ 16 are written without an exponent; an
exponent has a sign and two digits or more. -/
def plainLayout : NumberLayout := ⟨-4, 15, 2⟩

/-- Digits without zeros at their end, of which at least one is kept. -/
def significant (digits : List Char) : List Char :=
  match (digits.reverse.dropWhile (· = '0')).reverse with
  | [] => ['0']
  | kept => kept

/-- The text of a positive decimal.  `first` is the exponent of its first digit. -/
def layoutDecimal (layout : NumberLayout) (d : Decimal) : List Char :=
  let all := digitText d.digits
  let digits := significant all
  let first : Int := d.exponent + all.length - 1
  if layout.leastPositional ≤ first ∧ first ≤ layout.mostPositional then
    if first < 0 then
      "0.".toList ++ List.replicate ((-first).toNat - 1) '0' ++ digits
    else
      let whole := first.toNat + 1
      digits.take whole ++ List.replicate (whole - digits.length) '0' ++ ['.'] ++
        (if digits.length ≤ whole then ['0'] else digits.drop whole)
  else
    let exponent := digitText first.natAbs
    digits.take 1 ++ (if digits.length ≤ 1 then [] else '.' :: digits.drop 1) ++
      ['e', if first < 0 then '-' else '+'] ++
      List.replicate (layout.exponentWidth - exponent.length) '0' ++ exponent

def text : Double → List Char
  | nan => "nan".toList
  | infinite negative => (if negative then ['-'] else []) ++ "inf".toList
  | finite negative rank =>
    (if negative then ['-'] else []) ++
      (if rank.val = 0 then "0.0".toList else layoutDecimal plainLayout (shortest rank))

end Double
end SvgIcon
