import RecordQuery.Text.Blank
import RecordQuery.Time.Date

/-!
# Reading dates and instants

`Date.ofText?` reads a day written as year, month and day between hyphens, leniently: blanks may
stand before each number, a month or day may have one digit, and a year has a sign and any number of
digits or else at most four.

`Instant.ofText?` reads, in this order, a timestamp with a time offset (`Instant.ofOffsetText?`,
strict in its digits), a day and a time of day in universal time with `T` or blanks between them
(`Instant.ofLocalText?`), and a day alone, which stands for its midnight.
-/

namespace RecordQuery

namespace Time

/-- What remains of a text after reading something from its beginning. -/
abbrev Reader (α : Type) := List Char → Option (α × List Char)

/-- The digits at the beginning, at most `most` of them. -/
def leadingDigits (most : Option Nat) (cs : List Char) : List Char :=
  match most with
  | some n => (cs.takeWhile Char.isDigit).take n
  | none => cs.takeWhile Char.isDigit

/-- A number of at least `least` and at most `most` digits. -/
def number (least : Nat) (most : Option Nat) : Reader Nat := fun cs =>
  let ds := leadingDigits most cs
  if ds.length < least then none else some (Nat.ofDigitChars 10 ds 0, cs.drop ds.length)

/-- One given character. -/
def char (c : Char) : Reader Unit
  | [] => none
  | d :: cs => if d = c then some ((), cs) else none

/-- A year with blanks before it: signed with any number of digits, or at most four digits. -/
def year : Reader Int := fun cs =>
  match Text.trimStart cs with
  | '-' :: cs => (number 1 none cs).map fun r => (-(r.1 : Int), r.2)
  | '+' :: cs => (number 1 none cs).map fun r => ((r.1 : Int), r.2)
  | cs => (number 1 (some 4) cs).map fun r => ((r.1 : Int), r.2)

/-- A number of one or two digits with blanks before it. -/
def field : Reader Nat := fun cs => number 1 (some 2) (Text.trimStart cs)

/-- A day: year, month and day with hyphens between them. -/
def date : Reader Date := fun cs => do
  let (y, cs) ← year cs
  let (_, cs) ← char '-' cs
  let (m, cs) ← field cs
  let (_, cs) ← char '-' cs
  let (d, cs) ← field cs
  return (← Date.ofNumbers? y m d, cs)

/-- The nanoseconds of a fraction: nine digits count, more are passed over. -/
def nanos : Reader Nat := fun cs => do
  let ds := leadingDigits (some 9) cs
  if ds.isEmpty then none
  else
    return (Nat.ofDigitChars 10 ds 0 * Nat.pow 10 (9 - ds.length),
      (cs.drop ds.length).dropWhile Char.isDigit)

/-- A fraction of a second, if a point stands here. -/
def fraction : Reader Nat
  | '.' :: cs => nanos cs
  | cs => some (0, cs)

/-- Seconds since midnight and nanoseconds. A 60th second is the 59th, run over by a second. -/
def timeOfDay (hour minute second nanos : Nat) : Option (Nat × Nat) :=
  if hour ≤ 23 ∧ minute ≤ 59 ∧ second ≤ 60 then
    if second = 60 then some (hour * 3600 + minute * 60 + 59, nanos + 1000000000)
    else some (hour * 3600 + minute * 60 + second, nanos)
  else none

/-- The instant of a time of day that is `offset` seconds ahead of universal time. -/
def instantOf (d : Date) (time : Nat × Nat) (offset : Int) : Instant :=
  ⟨d.sinceEpoch * 86400 + time.1 - offset, time.2⟩

/-- Hours, minutes and seconds with colons between them, blanks allowed before each. -/
def lenientTime : Reader (Nat × Nat) := fun cs => do
  let (h, cs) ← field cs
  let (_, cs) ← char ':' cs
  let (m, cs) ← field cs
  let (_, cs) ← char ':' cs
  let (s, cs) ← field cs
  let (n, cs) ← fraction cs
  return (← timeOfDay h m s n, cs)

/-- Hours, minutes and seconds of two digits each with colons between them. -/
def strictTime : Reader (Nat × Nat) := fun cs => do
  let (h, cs) ← number 2 (some 2) cs
  let (_, cs) ← char ':' cs
  let (m, cs) ← number 2 (some 2) cs
  let (_, cs) ← char ':' cs
  let (s, cs) ← number 2 (some 2) cs
  let (n, cs) ← fraction cs
  return (← timeOfDay h m s n, cs)

/-- Year, month and day of four, two and two digits. -/
def strictDate : Reader Date := fun cs => do
  let (y, cs) ← number 4 (some 4) cs
  let (_, cs) ← char '-' cs
  let (m, cs) ← number 2 (some 2) cs
  let (_, cs) ← char '-' cs
  let (d, cs) ← number 2 (some 2) cs
  return (← Date.ofNumbers? y m d, cs)

/-- Hours and minutes of a time offset, in seconds. -/
def offsetSeconds : Reader Int := fun cs => do
  let (h, cs) ← number 2 (some 2) cs
  let (_, cs) ← char ':' cs
  let (m, cs) ← number 2 (some 2) cs
  if h ≤ 23 ∧ m ≤ 59 then return ((h * 3600 + m * 60 : Nat), cs) else none

/-- A time offset in seconds: `Z`, or a sign, hours and minutes; the minus may be the hyphen or the
minus sign U+2212. -/
def offset : Reader Int
  | 'Z' :: cs | 'z' :: cs => some (0, cs)
  | '+' :: cs => offsetSeconds cs
  | '-' :: cs | '−' :: cs => (offsetSeconds cs).map fun r => (-r.1, r.2)
  | _ => none

/-- The result of a reader that takes the whole text. -/
def all? {α : Type} (r : Reader α) (cs : List Char) : Option α :=
  match r cs with
  | some (a, []) => some a
  | _ => none

/-- A day, a separator and a time of day with a time offset. -/
def offsetInstant : Reader Instant := fun cs => do
  let (d, cs) ← strictDate cs
  match cs with
  | 'T' :: cs | 't' :: cs | ' ' :: cs =>
    let (time, cs) ← strictTime cs
    let (o, cs) ← offset cs
    return (instantOf d time o, cs)
  | _ => none

/-- A day and a time of day in universal time, `T` between them. -/
def lettered : Reader Instant := fun cs => do
  let (d, cs) ← date cs
  let (_, cs) ← char 'T' cs
  let (time, cs) ← lenientTime cs
  return (instantOf d time 0, cs)

/-- A day and a time of day in universal time, any number of blanks between them. -/
def spaced : Reader Instant := fun cs => do
  let (d, cs) ← date cs
  let (time, cs) ← lenientTime (Text.trimStart cs)
  return (instantOf d time 0, cs)

end Time

/-- The day that a whole text stands for. -/
def Date.ofText? (s : String) : Option Date := Time.all? Time.date s.toList

/-- The instant of a text with a time offset. -/
def Instant.ofOffsetText? (s : String) : Option Instant := Time.all? Time.offsetInstant s.toList

/-- The instant of a text without a time offset, in universal time. It may be written with `T` or with
blanks, each with a fraction of a second or without one. These four formats are two here: a fraction
may be absent, in which case `Time.fraction` reads nothing, so after a format with a fraction the same
one without it takes no text that was not taken before. -/
def Instant.ofLocalText? (s : String) : Option Instant :=
  (Time.all? Time.lettered s.toList).or (Time.all? Time.spaced s.toList)

/-- The instant that a whole text stands for. -/
def Instant.ofText? (s : String) : Option Instant :=
  (Instant.ofOffsetText? s).or
    ((Instant.ofLocalText? s).or ((Date.ofText? s).map Instant.midnight))

end RecordQuery
