import SvgIcon.Number.Numeral
import SvgIcon.Value.Assoc
import SvgIcon.Value.Moment

/-!
Dynamic values: what rule sets, settings files and messages are made of.  An object keeps
the order in which its keys were first written.
-/

namespace SvgIcon

inductive Value
  | null
  | bool (b : Bool)
  | int (i : Int)
  | float (x : Double)
  | text (s : String)
  | moment (m : Moment)
  | array (items : List Value)
  | object (fields : List (String × Value))
  deriving Repr, BEq, Inhabited

abbrev Fields := Assoc Value

namespace Value

/-- Nothing, `false`, zero and whatever is empty count as false. -/
def truthy : Value → Bool
  | null => false
  | bool b => b
  | int i => i ≠ 0
  | float x => !x.isZero
  | text s => s ≠ ""
  | moment _ => true
  | array items => !items.isEmpty
  | object fields => !fields.isEmpty

def isNull : Value → Bool
  | null => true
  | _ => false

def fields? : Value → Option Fields
  | object fields => some fields
  | _ => none

theorem fields?_eq_some_iff {v : Value} {fields : Fields} :
    v.fields? = some fields ↔ v = object fields := by
  constructor
  · intro h
    cases v with
    | object own => exact congrArg object (Option.some.inj h)
    | _ => exact nomatch h
  · rintro rfl
    rfl

/-- A whole number; the truth values count as one and zero. -/
def whole? : Value → Option Int
  | int i => some i
  | bool b => some (if b then 1 else 0)
  | _ => none

def text? : Value → Option String
  | text s => some s
  | _ => none

/-- A text, or nothing. -/
def ofText? : Option String → Value
  | some s => text s
  | none => null

/-- What keeps a value from being written as JSON. -/
inductive Defect
  /-- JSON knows no moments. -/
  | moment
  /-- A whole number is too long to be written. -/
  | tooManyDigits
  deriving DecidableEq, Repr

mutual
/-- The defects of a value, from left to right. -/
def defects : Value → List Defect
  | int i => if Numeral.fits i then [] else [.tooManyDigits]
  | moment _ => [.moment]
  | array items => defectsOfItems items
  | object fields => defectsOfFields fields
  | _ => []

def defectsOfItems : List Value → List Defect
  | [] => []
  | v :: rest => defects v ++ defectsOfItems rest

def defectsOfFields : List (String × Value) → List Defect
  | [] => []
  | f :: rest => defects f.2 ++ defectsOfFields rest
end

/-- No whole number in the value is too long to be written. -/
def isShort (v : Value) : Bool := !v.defects.contains .tooManyDigits

end Value
end SvgIcon
