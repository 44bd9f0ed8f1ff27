/-
Dates and points in time, as a document may hold them.

Dates follow the Gregorian calendar, extended to the years 1 to 9999. A point in time may carry
its distance from universal time; two that both do are the same when they name the same instant,
whatever the distances.
-/
import OpenApi.Total

set_option autoImplicit false

namespace OpenApi

/-- A day of the calendar. -/
structure Date where
  year : Nat
  month : Nat
  day : Nat
deriving DecidableEq, Repr

/-- A point in time. `offset` is the distance from universal time in seconds, if it is known. -/
structure Timestamp where
  date : Date
  hour : Nat
  minute : Nat
  second : Nat
  microsecond : Nat
  offset : Option Int
deriving DecidableEq, Repr

/-- Why numbers do not make up a date or a point in time. -/
inductive CalendarError where
  | year (n : Nat)
  | month
  | day
  | hour
  | minute
  | second
  | offset (seconds : Int)
deriving DecidableEq, Repr

/-! ## Validity -/

def isLeapYear (year : Nat) : Bool :=
  year % 4 == 0 && (year % 100 != 0 || year % 400 == 0)

/-- The number of days of a month. -/
def daysInMonth (year month : Nat) : Nat :=
  if month = 2 then if isLeapYear year then 29 else 28
  else if month = 4 || month = 6 || month = 9 || month = 11 then 30
  else 31

/-- A date from its parts; the first part that is out of range is reported. -/
def Date.of? (year month day : Nat) : Except CalendarError Date :=
  if year < 1 || 9999 < year then .error (.year year)
  else if month < 1 || 12 < month then .error .month
  else if day < 1 || daysInMonth year month < day then .error .day
  else .ok ⟨year, month, day⟩

/-- A point in time from its parts. -/
def Timestamp.of? (year month day hour minute second microsecond : Nat) (offset : Option Int) :
    Except CalendarError Timestamp := do
  if let some o := offset then
    if o ≤ -86400 || 86400 ≤ o then throw (.offset o)
  let date ← Date.of? year month day
  if 23 < hour then throw .hour
  if 59 < minute then throw .minute
  if 59 < second then throw .second
  return ⟨date, hour, minute, second, microsecond, offset⟩

/-! ## Comparison -/

/-- The number of days before the first of January of a year. -/
def daysBeforeYear (year : Nat) : Nat :=
  let y := year - 1
  y * 365 + y / 4 - y / 100 + y / 400

/-- The number of a day, counted from the start of the calendar. -/
def Date.ordinal (d : Date) : Nat :=
  daysBeforeYear d.year + total ((List.range (d.month - 1)).map fun m => daysInMonth d.year (m + 1))
    + d.day

/-- The microseconds of a point in time since the start of the calendar, on its own clock. -/
def Timestamp.clock (t : Timestamp) : Int :=
  (((t.date.ordinal * 24 + t.hour) * 60 + t.minute) * 60 + t.second : Nat) * 1000000
    + (t.microsecond : Int)

/-- Whether two points in time are the same: both on universal time, or both on a local clock. -/
def Timestamp.same (a b : Timestamp) : Bool :=
  match a.offset, b.offset with
  | some x, some y => a.clock - x * 1000000 == b.clock - y * 1000000
  | none, none => a.clock == b.clock
  | _, _ => false

/-! ## Text -/

/-- A number padded with zeros on the left. -/
def padNumber (width n : Nat) : String :=
  let digits := Nat.toDigits 10 n
  String.ofList (List.replicate (width - digits.length) '0' ++ digits)

/-- Year, month and day with hyphens. -/
def Date.text (d : Date) : String :=
  s!"{padNumber 4 d.year}-{padNumber 2 d.month}-{padNumber 2 d.day}"

/-- A distance from universal time as signed hours and minutes, and seconds if there are any. -/
def offsetText (offset : Int) : String :=
  let size := offset.natAbs
  let sign := if offset < 0 then "-" else "+"
  let seconds := if size % 60 = 0 then "" else ":" ++ padNumber 2 (size % 60)
  s!"{sign}{padNumber 2 (size / 3600)}:{padNumber 2 (size / 60 % 60)}{seconds}"

/-- A point in time with the given character between date and clock; microseconds and the
distance from universal time only where they are there. -/
def Timestamp.text (between : String) (t : Timestamp) : String :=
  let clock := s!"{padNumber 2 t.hour}:{padNumber 2 t.minute}:{padNumber 2 t.second}"
  let fraction := if t.microsecond = 0 then "" else "." ++ padNumber 6 t.microsecond
  let zone := (t.offset.map offsetText).getD ""
  s!"{t.date.text}{between}{clock}{fraction}{zone}"

/-- A span of seconds split into whole days, which may be negative, and the seconds left, which
are not. -/
def splitDays (seconds : Int) : Int × Int :=
  (Int.fdiv seconds 86400, Int.fmod seconds 86400)

/-- A span of time by its non-zero parts, as it is shown inside a value. -/
def spanText (seconds : Int) : String :=
  let (days, rest) := splitDays seconds
  let parts := (if days = 0 then [] else [s!"days={days}"]) ++
    (if rest = 0 then [] else [s!"seconds={rest}"])
  if parts.isEmpty then "datetime.timedelta(0)"
  else "datetime.timedelta(" ++ String.intercalate ", " parts ++ ")"

/-- A date as it is shown inside a value. -/
def Date.shown (d : Date) : String :=
  s!"datetime.date({d.year}, {d.month}, {d.day})"

/-- A point in time as it is shown inside a value: seconds and microseconds are left out from
the end when they are zero. -/
def Timestamp.shown (t : Timestamp) : String :=
  let tail :=
    if t.microsecond ≠ 0 then s!", {t.second}, {t.microsecond}"
    else if t.second ≠ 0 then s!", {t.second}"
    else ""
  let zone :=
    match t.offset with
    | none => ""
    | some 0 => ", tzinfo=datetime.timezone.utc"
    | some o => s!", tzinfo=datetime.timezone({spanText o})"
  let day := s!"{t.date.year}, {t.date.month}, {t.date.day}"
  s!"datetime.datetime({day}, {t.hour}, {t.minute}{tail}{zone})"

namespace CalendarError

def message : CalendarError → String
  | .year n => s!"year {n} is out of range"
  | .month => "month must be in 1..12"
  | .day => "day is out of range for month"
  | .hour => "hour must be in 0..23"
  | .minute => "minute must be in 0..59"
  | .second => "second must be in 0..59"
  | .offset seconds =>
    "offset must be a timedelta strictly between -timedelta(hours=24) and timedelta(hours=24), "
      ++ s!"not {spanText seconds}."

end CalendarError

end OpenApi
