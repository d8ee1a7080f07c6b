/-
Module: Crosswalk.Document.Calendar
Purpose: Days of the calendar and times of a day, as documents state them and as messages show them.
Main exports: Day, Day.isValid, Moment, Moment.isValid, Day.shown, Moment.shown
-/
import Crosswalk.Decimal.Numeral

namespace Crosswalk

/-- A day of the calendar. -/
structure Day where
  year : Nat
  month : Nat
  day : Nat
deriving DecidableEq, Repr

/-- A time of a day, perhaps with the difference of the local time from the universal one in seconds. -/
structure Moment where
  day : Day
  hour : Nat
  minute : Nat
  second : Nat
  microsecond : Nat := 0
  offset : Option Int := none
deriving DecidableEq, Repr

namespace Day

/-- Every fourth year has a day more, but of the full centuries only every fourth. -/
def isLeap (year : Nat) : Bool :=
  year % 4 = 0 && (year % 100 ≠ 0 || year % 400 = 0)

/-- The number of days of a month. -/
def daysIn (year month : Nat) : Nat :=
  if month = 2 then (if isLeap year then 29 else 28)
  else if month = 4 ∨ month = 6 ∨ month = 9 ∨ month = 11 then 30
  else 31

/-- The calendar has the day. Years are counted from one. -/
def isValid (d : Day) : Bool :=
  1 ≤ d.year && 1 ≤ d.month && d.month ≤ 12 && 1 ≤ d.day && d.day ≤ daysIn d.year d.month

/-- The parts of a day with commas between them. -/
def parts (d : Day) : List String :=
  [toString d.year, toString d.month, toString d.day]

/-- A day in a message. -/
def shown (d : Day) : String :=
  "datetime.date(" ++ ", ".intercalate d.parts ++ ")"

end Day

namespace Moment

/-- The number of seconds of a day. -/
def secondsPerDay : Int := 86400

/-- The calendar has the day, the day has the time, and the offset is less than a day. -/
def isValid (m : Moment) : Bool :=
  m.day.isValid && m.hour < 24 && m.minute < 60 && m.second < 60
    && m.offset.all fun offset => -secondsPerDay < offset && offset < secondsPerDay

/-- An offset in a message: whole days, rounded down, and the seconds that remain. -/
def shownOffset (offset : Int) : String :=
  if offset = 0 then "datetime.timezone.utc"
  else
    let days := Int.fdiv offset secondsPerDay
    let seconds := Int.fmod offset secondsPerDay
    let parts := (if days = 0 then [] else ["days=" ++ toString days])
      ++ (if seconds = 0 then [] else ["seconds=" ++ toString seconds])
    "datetime.timezone(datetime.timedelta(" ++ ", ".intercalate parts ++ "))"

/-- A time in a message. Microseconds are left out if there are none, and then seconds likewise. -/
def shown (m : Moment) : String :=
  let fine :=
    if m.microsecond ≠ 0 then [toString m.second, toString m.microsecond]
    else if m.second ≠ 0 then [toString m.second]
    else []
  let zone := match m.offset with
    | some offset => ["tzinfo=" ++ shownOffset offset]
    | none => []
  "datetime.datetime(" ++ ", ".intercalate
    (m.day.parts ++ [toString m.hour, toString m.minute] ++ fine ++ zone) ++ ")"

end Moment

example : Day.isValid ⟨2000, 2, 29⟩ = true ∧ Day.isValid ⟨1900, 2, 29⟩ = false := by decide

end Crosswalk
