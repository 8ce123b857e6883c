/-!
Dates and times as settings files write them: a day, a time of day, or both, the last with or
without an offset from universal time.
-/

namespace SvgIcon

structure Day where
  year : Nat
  month : Nat
  day : Nat
  deriving DecidableEq, Repr

structure TimeOfDay where
  hour : Nat
  minute : Nat
  second : Nat
  microsecond : Nat
  deriving DecidableEq, Repr

/-- Offsets are in minutes. -/
inductive Moment
  | day (d : Day)
  | time (t : TimeOfDay)
  | local (d : Day) (t : TimeOfDay)
  | zoned (d : Day) (t : TimeOfDay) (offset : Int)
  deriving DecidableEq, Repr

/-- A number with zeros in front, up to the given width. -/
def padded (width n : Nat) : String :=
  let digits := Nat.toDigits 10 n
  String.ofList (List.replicate (width - digits.length) '0' ++ digits)

def Day.isLeapYear (year : Nat) : Bool := (year % 4 = 0 && year % 100 ≠ 0) || year % 400 = 0

def Day.monthLength (year month : Nat) : Nat :=
  if month = 2 then (if isLeapYear year then 29 else 28)
  else if month = 4 || month = 6 || month = 9 || month = 11 then 30
  else 31

/-- The calendar has this day.  Its first year is 1. -/
def Day.isValid (d : Day) : Bool :=
  1 ≤ d.year && 1 ≤ d.month && d.month ≤ 12 && 1 ≤ d.day && d.day ≤ monthLength d.year d.month

def TimeOfDay.isValid (t : TimeOfDay) : Bool := t.hour < 24 && t.minute < 60 && t.second < 60

def Day.text (d : Day) : String := s!"{padded 4 d.year}-{padded 2 d.month}-{padded 2 d.day}"

/-- The fraction of a second is written with six digits, and only if there is one. -/
def TimeOfDay.text (t : TimeOfDay) : String :=
  s!"{padded 2 t.hour}:{padded 2 t.minute}:{padded 2 t.second}" ++
    (if t.microsecond = 0 then "" else "." ++ padded 6 t.microsecond)

namespace Moment

def offsetText (offset : Int) : String :=
  (if offset < 0 then "-" else "+") ++ padded 2 (offset.natAbs / 60) ++ ":" ++
    padded 2 (offset.natAbs % 60)

def text : Moment → String
  | day d => d.text
  | time t => t.text
  | .local d t => d.text ++ " " ++ t.text
  | zoned d t offset => d.text ++ " " ++ t.text ++ offsetText offset

/-! ## Inside a list or an object -/

/-- Seconds and microseconds are left out from the end while they are zero. -/
def timeArguments (t : TimeOfDay) : String :=
  s!"{t.hour}, {t.minute}" ++
    (if t.microsecond = 0 then (if t.second = 0 then "" else s!", {t.second}")
    else s!", {t.second}, {t.microsecond}")

def dayArguments (d : Day) : String := s!"{d.year}, {d.month}, {d.day}"

/-- An offset as whole days, which may be minus one, and seconds. -/
def zoneText (offset : Int) : String :=
  if offset = 0 then "datetime.timezone.utc"
  else
    let seconds := Int.emod (offset * 60) 86400
    if offset < 0 then s!"datetime.timezone(datetime.timedelta(days=-1, seconds={seconds}))"
    else s!"datetime.timezone(datetime.timedelta(seconds={seconds}))"

def written : Moment → String
  | day d => s!"datetime.date({dayArguments d})"
  | time t => s!"datetime.time({timeArguments t})"
  | .local d t => s!"datetime.datetime({dayArguments d}, {timeArguments t})"
  | zoned d t offset =>
    s!"datetime.datetime({dayArguments d}, {timeArguments t}, tzinfo={zoneText offset})"

end Moment
end SvgIcon
