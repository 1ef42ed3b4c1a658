/-!
# Dates and instants

A `Date` is a day of the proleptic Gregorian calendar between the years -262143 and 262142; it holds
the proof that the day exists. An `Instant` is a point of universal time: whole seconds since the
start of 1970 and nanoseconds, of which there are more than a second's worth inside a leap second.
-/

namespace RecordQuery

/-- Whether a year has a 29th of February. -/
def isLeapYear (year : Int) : Bool :=
  year % 4 = 0 && (year % 100 ≠ 0 || year % 400 = 0)

/-- The number of days of a month; there is no month outside 1–12. -/
def daysInMonth (year : Int) : Nat → Nat
  | 1 | 3 | 5 | 7 | 8 | 10 | 12 => 31
  | 4 | 6 | 9 | 11 => 30
  | 2 => if isLeapYear year then 29 else 28
  | _ => 0

/-- A day of the calendar. -/
structure Date where
  year : Int
  month : Nat
  day : Nat
  year_mem : -262143 ≤ year ∧ year ≤ 262142
  day_mem : 1 ≤ day ∧ day ≤ daysInMonth year month
  deriving DecidableEq

/-- A point of universal time. -/
structure Instant where
  /-- Seconds since the start of 1970. -/
  seconds : Int
  /-- Nanoseconds, a thousand million or more inside a leap second. -/
  nanos : Nat
  deriving DecidableEq

namespace Date

/-- The day with these numbers, if there is one. -/
def ofNumbers? (year : Int) (month day : Nat) : Option Date :=
  if hy : -262143 ≤ year ∧ year ≤ 262142 then
    if hd : 1 ≤ day ∧ day ≤ daysInMonth year month then some ⟨year, month, day, hy, hd⟩ else none
  else none

/-- Earlier days come first. -/
def compare (a b : Date) : Ordering :=
  (Ord.compare a.year b.year).then ((Ord.compare a.month b.month).then (Ord.compare a.day b.day))

/-- The number of days in the first months of a year. -/
def daysBefore (year : Int) : Nat → Nat
  | 0 => 0
  | m + 1 => daysBefore year m + daysInMonth year (m + 1)

/-- The days from the start of 1970 to this day. -/
def sinceEpoch (d : Date) : Int :=
  let y := d.year - 1
  365 * y + y / 4 - y / 100 + y / 400 + daysBefore d.year (d.month - 1) + d.day - 719163

end Date

namespace Instant

/-- Earlier points come first. -/
def compare (a b : Instant) : Ordering :=
  (Ord.compare a.seconds b.seconds).then (Ord.compare a.nanos b.nanos)

/-- The start of a day. -/
def midnight (d : Date) : Instant := ⟨d.sinceEpoch * 86400, 0⟩

end Instant

end RecordQuery
