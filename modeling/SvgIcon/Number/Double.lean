/-!
Binary floating-point numbers of 64 bits.  A finite number is a sign and a rank: how many
non-negative numbers lie below its magnitude.  Ranks grow with magnitudes, so rounding up
past a power of two needs no case of its own, and two numbers are equal exactly when their
signs and ranks are.

Every magnitude is a whole number of units of 2 ^ -1074.  Sums and products are computed
exactly and then rounded to the nearest rank, ties to the even one.
-/

namespace SvgIcon

/-- How many ranks lie between a power of two and the next. -/
abbrev Double.blockSize : Nat := Nat.pow 2 52

abbrev Double.rankCount : Nat := 2047 * blockSize

inductive Double
  | nan
  | infinite (negative : Bool)
  | finite (negative : Bool) (rank : Fin Double.rankCount)
  deriving DecidableEq, Repr

namespace Double

/-- A quotient rounded to the nearest whole number, a half to the even one. -/
def roundDiv (num den : Nat) : Nat :=
  let q := num / den
  let r := num % den
  if den < 2 * r ∨ (2 * r = den ∧ q % 2 = 1) then q + 1 else q

/-- The magnitude at a rank, in units of 2 ^ -1074. -/
def units (rank : Nat) : Nat :=
  if rank < blockSize then rank
  else (blockSize + rank % blockSize) * Nat.pow 2 (rank / blockSize - 1)

def unitsInOne : Nat := Nat.pow 2 1074

/-- The rank nearest to `num / den` units.  The quotient is scaled so that its whole part has
at most 53 binary digits; the scale then counts the blocks of ranks passed. -/
def rankOfRatio (num den : Nat) : Nat :=
  let scale := (num / den).log2 - 52
  scale * blockSize + roundDiv num (den * Nat.pow 2 scale)

/-- The number of the given sign and rank; infinite behind the last rank. -/
def ofRank (negative : Bool) (rank : Nat) : Double :=
  if h : rank < rankCount then finite negative ⟨rank, h⟩ else infinite negative

/-- `num / den` units of 2 ^ -1074, rounded. -/
def ofUnits (negative : Bool) (num den : Nat) : Double := ofRank negative (rankOfRatio num den)

/-- `num / den`, rounded. -/
def ofRatio (negative : Bool) (num den : Nat) : Double := ofUnits negative (num * unitsInOne) den

def signedZero (negative : Bool) : Double := finite negative 0

def zero : Double := signedZero false

def one : Double := ofRatio false 1 1

def isZero : Double → Bool
  | finite _ rank => rank.val = 0
  | _ => false

/-- The value in units of 2 ^ -1074. -/
def signedUnits (negative : Bool) (rank : Nat) : Int :=
  if negative then -(units rank : Int) else units rank

/-- A whole number, rounded; `none` if it lies behind the finite numbers. -/
def ofInt? (i : Int) : Option Double :=
  match ofRatio (i < 0) i.natAbs 1 with
  | infinite _ => none
  | x => some x

/-- A quotient of whole numbers, rounded once; `none` if it lies behind the finite numbers. -/
def quotient? (num den : Int) : Option Double :=
  match ofRatio ((num < 0) ≠ (den < 0)) num.natAbs den.natAbs with
  | infinite _ => none
  | x => some x

def neg : Double → Double
  | nan => nan
  | infinite negative => infinite (!negative)
  | finite negative rank => finite (!negative) rank

/-- A sum.  It is minus zero only if both sides are. -/
def add : Double → Double → Double
  | nan, _ => nan
  | _, nan => nan
  | infinite s, infinite t => if s = t then infinite s else nan
  | infinite s, finite _ _ => infinite s
  | finite _ _, infinite t => infinite t
  | finite s a, finite t b =>
    let sum := signedUnits s a + signedUnits t b
    if sum = 0 then signedZero (s && t) else ofUnits (sum < 0) sum.natAbs 1

def mul : Double → Double → Double
  | nan, _ => nan
  | _, nan => nan
  | infinite s, infinite t => infinite (s ≠ t)
  | infinite s, finite t b => if b.val = 0 then nan else infinite (s ≠ t)
  | finite s a, infinite t => if a.val = 0 then nan else infinite (s ≠ t)
  | finite s a, finite t b => ofUnits (s ≠ t) (units a * units b) unitsInOne

/-- The order of numbers; nothing is below or above `nan`, and the zeros are equal. -/
def lt : Double → Double → Bool
  | nan, _ => false
  | _, nan => false
  | infinite s, infinite t => s && !t
  | infinite s, finite _ _ => s
  | finite _ _, infinite t => !t
  | finite s a, finite t b => signedUnits s a < signedUnits t b

/-- The whole number below a finite number. -/
def floor? : Double → Option Int
  | finite negative rank => some (Int.fdiv (signedUnits negative rank) unitsInOne)
  | _ => none

def truncate? : Double → Option Int
  | finite negative rank => some (Int.tdiv (signedUnits negative rank) unitsInOne)
  | _ => none

end Double
end SvgIcon
