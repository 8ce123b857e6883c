import SvgIcon.Text.Scan

/-!
JSON texts as bytes.  They come in UTF-8, or in units of two or four bytes in either order.  A JSON
text begins with ASCII, hence the zeros among its first four bytes tell which it is.
-/

namespace SvgIcon
namespace Json

/-- How the characters of a JSON text are laid out in bytes. -/
inductive Layout
  | utf8
  /-- Units of two bytes. -/
  | pairs (lowFirst : Bool)
  /-- Units of four bytes. -/
  | quads (lowFirst : Bool)
  deriving DecidableEq, Repr

/-- The layout by the first bytes.  Three bytes and a single one are UTF-8. -/
def Layout.ofBytes : List UInt8 → Layout
  | [0, _] => pairs false
  | [_, 0] => pairs true
  | 0 :: b :: _ :: _ :: _ => if b = 0 then quads false else pairs false
  | _ :: 0 :: c :: d :: _ => if c = 0 && d = 0 then quads true else pairs true
  | _ => utf8

def unitOf (lowFirst : Bool) (bytes : List UInt8) : Nat :=
  (if lowFirst then bytes.reverse else bytes).foldl (fun n b => 256 * n + b.toNat) 0

/-- Bytes as units of two; none if one is left over. -/
def pairUnits? (lowFirst : Bool) : List UInt8 → Option (List Nat)
  | [] => some []
  | a :: b :: rest => (pairUnits? lowFirst rest).map (unitOf lowFirst [a, b] :: ·)
  | _ => none

/-- Bytes as units of four; none if some are left over. -/
def quadUnits? (lowFirst : Bool) : List UInt8 → Option (List Nat)
  | [] => some []
  | a :: b :: c :: d :: rest => (quadUnits? lowFirst rest).map (unitOf lowFirst [a, b, c, d] :: ·)
  | _ => none

/-- The character of a number.  Half of a pair stands for no character. -/
def charOf? (n : Nat) : Option Char :=
  if 0x110000 ≤ n then none else if 0xD800 ≤ n && n < 0xE000 then some '\uFFFD' else some (.ofNat n)

/-- The numbers of characters that units of two bytes stand for; two halves make one. -/
def joinHalves : List Nat → List Nat
  | a :: b :: rest =>
    if 0xD800 ≤ a && a < 0xDC00 && 0xDC00 ≤ b && b < 0xE000 then
      (0x10000 + (a - 0xD800) * 0x400 + (b - 0xDC00)) :: joinHalves rest
    else a :: joinHalves (b :: rest)
  | units => units

/-- The text of bytes, without a byte-order mark in front of UTF-8. -/
def textOfBytes? (bytes : ByteArray) : Option (List Char) :=
  let list := bytes.data.toList
  match Layout.ofBytes list with
  | .utf8 => (String.fromUTF8? bytes).map fun s => Text.withoutMark s.toList
  | .pairs lowFirst => do (joinHalves (← pairUnits? lowFirst list)).mapM charOf?
  | .quads lowFirst => do (← quadUnits? lowFirst list).mapM charOf?

end Json
end SvgIcon
