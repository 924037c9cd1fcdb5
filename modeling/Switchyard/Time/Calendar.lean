/-!
# Dates and times of day

The proleptic Gregorian calendar in a bounded range of years, times of day with nanoseconds, and both
together with an offset from universal time.
-/

namespace Switchyard

/-- A day of the calendar. -/
structure Date where
  year : Int
  month : Nat
  day : Nat
  deriving DecidableEq, Repr

/-- A time of day. In a leap second `nano` is at least a milliard. -/
structure TimeOfDay where
  hour : Nat
  minute : Nat
  second : Nat
  nano : Nat
  deriving DecidableEq, Repr

/-- A time of day on a date. -/
structure DateTime where
  date : Date
  time : TimeOfDay
  deriving DecidableEq, Repr

/-- A local date and time, with its offset from universal time in minutes. -/
structure OffsetDateTime where
  wall : DateTime
  offset : Int
  deriving DecidableEq, Repr

namespace Date

/-- The first and the last year of the calendar. -/
def firstYear : Int := -262143
def lastYear : Int := 262142

/-- A year with a leap day. -/
def isLeap (year : Int) : Bool := year % 4 = 0 && (year % 100 ≠ 0 || year % 400 = 0)

/-- The number of days in a month. -/
def monthLength (year : Int) (month : Nat) : Nat :=
  if month = 2 then if isLeap year then 29 else 28
  else if month = 4 ∨ month = 6 ∨ month = 9 ∨ month = 11 then 30
  else 31

/-- A date of the calendar. -/
def isValid (d : Date) : Bool :=
  firstYear ≤ d.year && d.year ≤ lastYear && 1 ≤ d.month && d.month ≤ 12 && 1 ≤ d.day
    && d.day ≤ monthLength d.year d.month

/-- The day after, if the calendar has one. -/
def next? (d : Date) : Option Date :=
  let e : Date :=
    if d.day < monthLength d.year d.month then { d with day := d.day + 1 }
    else if d.month < 12 then ⟨d.year, d.month + 1, 1⟩
    else ⟨d.year + 1, 1, 1⟩
  if e.isValid then some e else none

/-- The day before, if the calendar has one. -/
def previous? (d : Date) : Option Date :=
  let e : Date :=
    if 1 < d.day then { d with day := d.day - 1 }
    else if 1 < d.month then ⟨d.year, d.month - 1, monthLength d.year (d.month - 1)⟩
    else ⟨d.year - 1, 12, 31⟩
  if e.isValid then some e else none

end Date

namespace OffsetDateTime

/-- The same moment in universal time, if its day is in the calendar. -/
def universal? (t : OffsetDateTime) : Option DateTime :=
  let minutes : Int := t.wall.time.hour * 60 + t.wall.time.minute - t.offset
  let time : TimeOfDay :=
    { t.wall.time with hour := (minutes % 1440).toNat / 60, minute := (minutes % 1440).toNat % 60 }
  let date := if minutes < 0 then t.wall.date.previous?
    else if 1440 ≤ minutes then t.wall.date.next?
    else some t.wall.date
  date.map fun date => ⟨date, time⟩

end OffsetDateTime

end Switchyard
