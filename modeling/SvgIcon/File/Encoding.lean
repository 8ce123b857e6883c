import SvgIcon.Text.Quoted

/-!
Texts as bytes.  Files are written in one of three encodings and read as UTF-8; what is wrong
with bytes that are not UTF-8 is told by the position of the first defect.
-/

namespace SvgIcon

inductive Encoding
  | utf8
  | latin1
  /-- Two bytes a unit, the lower one first. -/
  | utf16
  deriving DecidableEq, Repr

namespace Encoding

def name : Encoding → String
  | utf8 => "utf-8"
  | latin1 => "latin-1"
  | utf16 => "utf-16-le"

/-- A unit of sixteen bits, the lower byte first. -/
def unitBytes (n : Nat) : List UInt8 := [UInt8.ofNat (n % 256), UInt8.ofNat (n / 256)]

/-- A character in UTF-16; behind the first 65536 it takes a pair of units. -/
def utf16Bytes (c : Char) : List UInt8 :=
  let n := c.toNat
  if n < 0x10000 then unitBytes n
  else
    unitBytes (0xD800 + (n - 0x10000) / 0x400) ++ unitBytes (0xDC00 + (n - 0x10000) % 0x400)

/-- The bytes of a text; Latin-1 has none for characters behind its 256. -/
def bytes? (e : Encoding) (s : String) : Option ByteArray :=
  match e with
  | utf8 => some s.toUTF8
  | latin1 =>
    if s.toList.all fun c => c.toNat < 256 then
      some ⟨(s.toList.map fun c => UInt8.ofNat c.toNat).toArray⟩
    else none
  | utf16 => some ⟨(s.toList.flatMap utf16Bytes).toArray⟩

end Encoding

namespace Utf8

/-- What a leading byte announces: how many bytes follow, and the bounds of the first of them. -/
def lead? (b : UInt8) : Option (Nat × UInt8 × UInt8) :=
  if b < 0x80 then some (0, 0, 0)
  else if b < 0xC2 then none
  else if b < 0xE0 then some (1, 0x80, 0xBF)
  else if b < 0xF0 then
    some (2, if b = 0xE0 then 0xA0 else 0x80, if b = 0xED then 0x9F else 0xBF)
  else if b < 0xF5 then
    some (3, if b = 0xF0 then 0x90 else 0x80, if b = 0xF4 then 0x8F else 0xBF)
  else none

/-- How many of the `n` following bytes stand at the front, the first of them within the bounds. -/
def following : Nat → UInt8 → UInt8 → List UInt8 → Nat
  | n + 1, low, high, b :: rest =>
    if low ≤ b && b ≤ high then following n 0x80 0xBF rest + 1 else 0
  | _, _, _, _ => 0

/-- The first bytes that do not make a character. -/
structure Defect where
  position : Nat
  bytes : List UInt8
  reason : String
  deriving Repr

/-- The first defect of bytes.  The arguments before them are how many belong to a character
already read, and where the bytes start. -/
def defectFrom : Nat → Nat → List UInt8 → Option Defect
  | _, _, [] => none
  | covered + 1, position, _ :: rest => defectFrom covered (position + 1) rest
  | 0, position, b :: rest =>
    match lead? b with
    | none => some ⟨position, [b], "invalid start byte"⟩
    | some (n, low, high) =>
      let there := following n low high rest
      if there = n then defectFrom n (position + 1) rest
      else
        some ⟨position, b :: rest.take there,
          if there = rest.length then "unexpected end of data" else "invalid continuation byte"⟩

def Defect.text (d : Defect) : String :=
  match d.bytes with
  | [b] =>
    s!"'utf-8' codec can't decode byte 0x{String.ofList (Text.hexDigits 2 b.toNat)} in position {d.position}: {d.reason}"
  | bytes =>
    let last := d.position + bytes.length - 1
    s!"'utf-8' codec can't decode bytes in position {d.position}-{last}: {d.reason}"

/-- The text of bytes, or what is wrong with them. -/
def decode (bytes : ByteArray) : Except String String :=
  match String.fromUTF8? bytes with
  | some s => .ok s
  | none =>
    .error (((defectFrom 0 0 bytes.data.toList).map Defect.text).getD
      "'utf-8' codec can't decode the bytes")

end Utf8
end SvgIcon
