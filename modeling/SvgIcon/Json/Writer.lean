import SvgIcon.Number.Decimal
import SvgIcon.Text.Quoted
import SvgIcon.Value.Basic

/-!
Writing values as JSON text.
-/

namespace SvgIcon
namespace Json

open Text

/-- The choices that a JSON text leaves open: whether characters outside printable ASCII are
escaped, and how far each level is indented (on one line if not at all). -/
structure Style where
  asciiOnly : Bool
  indent : Option Nat
  deriving Repr

/-- One line, ASCII only: the form of messages. -/
def Style.message : Style := ⟨true, none⟩

/-- One line, all printable characters as they are: the form of the run log. -/
def Style.log : Style := ⟨false, none⟩

/-- Indented by two, ASCII only: the form of dumped settings. -/
def Style.dump : Style := ⟨true, some 2⟩

/-- Indented by two, all printable characters as they are: the form for a reader. -/
def Style.shown : Style := ⟨false, some 2⟩

/-- A UTF-16 unit as an escape. -/
def unitEscape (n : Nat) : List Char := '\\' :: 'u' :: hexDigits 4 n

/-- A character of a text.  Characters from U+10000 on are escaped as two units. -/
def charText (asciiOnly : Bool) (c : Char) : List Char :=
  if c = '"' then ['\\', '"']
  else if c = '\\' then ['\\', '\\']
  else if c = '\n' then ['\\', 'n']
  else if c = '\r' then ['\\', 'r']
  else if c = '\t' then ['\\', 't']
  else if c = '\x08' then ['\\', 'b']
  else if c = '\x0c' then ['\\', 'f']
  else if c.toNat < 32 then unitEscape c.toNat
  else if asciiOnly && 126 < c.toNat then
    if c.toNat < 0x10000 then unitEscape c.toNat
    else
      let n := c.toNat - 0x10000
      unitEscape (0xD800 + n / 0x400) ++ unitEscape (0xDC00 + n % 0x400)
  else [c]

def textText (asciiOnly : Bool) (s : List Char) : List Char :=
  '"' :: s.flatMap (charText asciiOnly) ++ ['"']

/-- Numbers that JSON has no form for are written by name. -/
def floatText : Double → List Char
  | .nan => "NaN".toList
  | .infinite negative => (if negative then ['-'] else []) ++ "Infinity".toList
  | x => x.text

def lineBreak (style : Style) (depth : Nat) : List Char :=
  match style.indent with
  | none => []
  | some width => '\n' :: List.replicate (width * depth) ' '

def separator (style : Style) (depth : Nat) : List Char :=
  match style.indent with
  | none => [',', ' ']
  | some _ => ',' :: lineBreak style depth

mutual
/-- The text of a value that stands at the given depth. -/
def valueText (style : Style) : Nat → Value → List Char
  | _, .null => "null".toList
  | _, .bool b => if b then "true".toList else "false".toList
  | _, .int i => (toString i).toList
  | _, .float x => floatText x
  | _, .text s => textText style.asciiOnly s.toList
  | _, .moment m => textText style.asciiOnly m.text.toList
  | depth, .array items =>
    if items.isEmpty then ['[', ']']
    else
      '[' :: lineBreak style (depth + 1) ++ itemsText style (depth + 1) items ++
        lineBreak style depth ++ [']']
  | depth, .object fields =>
    if fields.isEmpty then ['\x7b', '\x7d']
    else
      '\x7b' :: lineBreak style (depth + 1) ++ fieldsText style (depth + 1) fields ++
        lineBreak style depth ++ ['\x7d']

def itemsText (style : Style) : Nat → List Value → List Char
  | _, [] => []
  | depth, [v] => valueText style depth v
  | depth, v :: rest =>
    valueText style depth v ++ separator style depth ++ itemsText style depth rest

def fieldsText (style : Style) : Nat → List (String × Value) → List Char
  | _, [] => []
  | depth, [(key, v)] => textText style.asciiOnly key.toList ++ [':', ' '] ++ valueText style depth v
  | depth, (key, v) :: rest =>
    textText style.asciiOnly key.toList ++ [':', ' '] ++ valueText style depth v ++
      separator style depth ++ fieldsText style depth rest
end

def write (style : Style) (v : Value) : String := String.ofList (valueText style 0 v)

/-! ## Sorted keys -/

/-- A field put in its place among sorted fields, behind those of the same key. -/
def insertField (f : String × Value) : List (String × Value) → List (String × Value)
  | [] => [f]
  | g :: rest => if f.1 < g.1 then f :: g :: rest else g :: insertField f rest

def sortFields (fields : List (String × Value)) : List (String × Value) :=
  fields.foldl (fun acc f => insertField f acc) []

mutual
/-- The value with the keys of every object in increasing order of their characters. -/
def sortKeys : Value → Value
  | .array items => .array (sortItems items)
  | .object fields => .object (sortFields (sortValues fields))
  | v => v

def sortItems : List Value → List Value
  | [] => []
  | v :: rest => sortKeys v :: sortItems rest

def sortValues : List (String × Value) → List (String × Value)
  | [] => []
  | f :: rest => (f.1, sortKeys f.2) :: sortValues rest
end

end Json
end SvgIcon
