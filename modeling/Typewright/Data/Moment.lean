/-
  Days of the calendar, and moments of a day.

  A moment is exact to the microsecond.  It may tell how far the local time, in which it is written,
  is ahead of the universal time.  Both are shown in two ways: as text, with the parts in a row from
  the year down, and as literals, which list the parts as numbers.
-/
import Typewright.Number.Decimal

namespace Typewright

/-- A day of the calendar. -/
structure Day where
  year : Nat
  month : Nat
  day : Nat
  deriving DecidableEq, Repr

/-- A moment of a day. -/
structure Moment where
  day : Day
  hour : Nat
  minute : Nat
  second : Nat
  microsecond : Nat
  /-- How many minutes the local time is ahead, if it is known. -/
  ahead : Option Int
  deriving DecidableEq, Repr

/-- A part of a day or a moment that is out of its range. -/
inductive CalendarFlaw where
  | year (n : Nat)
  | month
  | day
  | hour
  | minute
  | second
  /-- The local time is this many minutes ahead, which is a day or more. -/
  | ahead (minutes : Int)
  deriving DecidableEq, Repr

/-! ## Ranges -/

/-- A year has a day more than the others. -/
def isLeapYear (year : Nat) : Bool := year % 4 == 0 && (year % 100 != 0 || year % 400 == 0)

/-- The number of days of a month. -/
def daysInMonth (year month : Nat) : Nat :=
  if month = 2 then if isLeapYear year then 29 else 28
  else if [4, 6, 9, 11].contains month then 30
  else 31

/-- The first part of a day that is out of its range. -/
def Day.flaw? (d : Day) : Option CalendarFlaw :=
  if d.year = 0 then some (.year d.year)
  else if d.month = 0 ∨ 12 < d.month then some .month
  else if d.day = 0 ∨ daysInMonth d.year d.month < d.day then some .day
  else none

/-- The number of minutes of a day. -/
def minutesPerDay : Nat := 1440

/-- The first part of a moment that is out of its range, the difference between the times before the
    others. -/
def Moment.flaw? (m : Moment) : Option CalendarFlaw :=
  match m.ahead.filter fun n => minutesPerDay ≤ n.natAbs with
  | some n => some (.ahead n)
  | none =>
    m.day.flaw?.or
      (if 24 ≤ m.hour then some .hour
      else if 60 ≤ m.minute then some .minute
      else if 60 ≤ m.second then some .second
      else none)

/-! ## Times -/

/-- The number of days of the years before a year. -/
def daysBeforeYear (year : Nat) : Nat :=
  let past := year - 1
  365 * past + past / 4 - past / 100 + past / 400

/-- The number of days in front of a month of a year. -/
def daysBeforeMonth (year month : Nat) : Nat :=
  (List.range (month - 1)).foldl (fun days n => days + daysInMonth year (n + 1)) 0

/-- The number of days in front of a day, counted from the first day of the first year on. -/
def Day.number (d : Day) : Nat :=
  daysBeforeYear d.year + daysBeforeMonth d.year d.month + (d.day - 1)

/-- The universal time of a moment in microseconds, if the difference between the times is known. -/
def Moment.time? (m : Moment) : Option Int :=
  m.ahead.map fun ahead =>
    let minutes : Int := minutesPerDay * m.day.number + 60 * m.hour + m.minute - ahead
    1000000 * (60 * minutes + m.second) + m.microsecond

/-! ## Texts -/

/-- A number with zeros in front up to a width. -/
def zeroPadded (width n : Nat) : String :=
  let ds := Decimal.digits n
  String.ofList (List.replicate (width - ds.length) '0' ++ ds)

/-- A day as text. -/
def Day.text (d : Day) : String :=
  zeroPadded 4 d.year ++ "-" ++ zeroPadded 2 d.month ++ "-" ++ zeroPadded 2 d.day

/-- A difference between times as text. -/
def aheadText (minutes : Int) : String :=
  (if minutes < 0 then "-" else "+") ++ zeroPadded 2 (minutes.natAbs / 60) ++ ":" ++
    zeroPadded 2 (minutes.natAbs % 60)

/-- A moment as text; microseconds are left out if there are none. -/
def Moment.text (m : Moment) : String :=
  m.day.text ++ " " ++ zeroPadded 2 m.hour ++ ":" ++ zeroPadded 2 m.minute ++ ":" ++
    zeroPadded 2 m.second ++
    (if m.microsecond = 0 then "" else "." ++ zeroPadded 6 m.microsecond) ++
    (m.ahead.map aheadText).getD ""

/-! ## Literals -/

/-- Numbers in a row. -/
def numberRow (ns : List Nat) : String := String.intercalate ", " (ns.map fun n => toString n)

/-- The literal of a span of minutes, which counts days and, from there on, seconds. -/
def spanLiteral (minutes : Int) : String :=
  let days := minutes.fdiv minutesPerDay
  let seconds := 60 * minutes.fmod minutesPerDay
  let part (name : String) (n : Int) : List String :=
    if n = 0 then [] else [name ++ "=" ++ toString n]
  let parts := part "days" days ++ part "seconds" seconds
  "datetime.timedelta(" ++ (if parts.isEmpty then "0" else String.intercalate ", " parts) ++ ")"

/-- The literal of a day. -/
def Day.literal (d : Day) : String := "datetime.date(" ++ numberRow [d.year, d.month, d.day] ++ ")"

/-- The literal of a difference between times. -/
def aheadLiteral (minutes : Int) : String :=
  ", tzinfo=datetime.timezone" ++
    (if minutes = 0 then ".utc" else "(" ++ spanLiteral minutes ++ ")")

/-- The literal of a moment; seconds and microseconds are left out from the end if they are zero. -/
def Moment.literal (m : Moment) : String :=
  let least :=
    if m.microsecond ≠ 0 then [m.second, m.microsecond]
    else if m.second ≠ 0 then [m.second]
    else []
  "datetime.datetime(" ++
    numberRow ([m.day.year, m.day.month, m.day.day, m.hour, m.minute] ++ least) ++
    (m.ahead.map aheadLiteral).getD "" ++ ")"

/-- The words for a part that is out of its range. -/
def CalendarFlaw.message : CalendarFlaw → String
  | year n => "year " ++ toString n ++ " is out of range"
  | month => "month must be in 1..12"
  | day => "day is out of range for month"
  | hour => "hour must be in 0..23"
  | minute => "minute must be in 0..59"
  | second => "second must be in 0..59"
  | ahead minutes =>
    "offset must be a timedelta strictly between -timedelta(hours=24) and timedelta(hours=24), " ++
      "not " ++ spanLiteral minutes ++ "."

end Typewright
