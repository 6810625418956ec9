/-!
# Instants

An instant is a date and a time of day in UTC, with nanoseconds and leap seconds. `Instant.rank`
orders instants as they follow each other in time.
-/

namespace Folio.Time

/-- Whether a year of the proleptic Gregorian calendar has 366 days. -/
def isLeap (year : Int) : Bool :=
  year % 4 == 0 && (year % 100 != 0 || year % 400 == 0)

/-- The number of days in a month; months outside 1 to 12 have none. -/
def daysIn (year : Int) : Nat → Nat
  | 2 => if isLeap year then 29 else 28
  | 4 | 6 | 9 | 11 => 30
  | 1 | 3 | 5 | 7 | 8 | 10 | 12 => 31
  | _ => 0

/-- The first year that an instant can lie in. -/
def firstYear : Int := -262143

/-- The last year that an instant can lie in. -/
def lastYear : Int := 262142

/-- A calendar date. -/
structure Date where
  year : Int
  month : Nat
  day : Nat
  deriving DecidableEq, Repr

namespace Date

/-- A date that exists, in a year that instants can lie in. -/
def Exists (d : Date) : Prop :=
  firstYear ≤ d.year ∧ d.year ≤ lastYear ∧ 1 ≤ d.day ∧ d.day ≤ daysIn d.year d.month

instance (d : Date) : Decidable d.Exists := by
  unfold Exists; infer_instance

/-- The day after. -/
def next (d : Date) : Date :=
  if d.day < daysIn d.year d.month then { d with day := d.day + 1 }
  else if d.month < 12 then ⟨d.year, d.month + 1, 1⟩
  else ⟨d.year + 1, 1, 1⟩

/-- The day before. -/
def previous (d : Date) : Date :=
  if 1 < d.day then { d with day := d.day - 1 }
  else if 1 < d.month then ⟨d.year, d.month - 1, daysIn d.year (d.month - 1)⟩
  else ⟨d.year - 1, 12, 31⟩

end Date

/-- A point in time. -/
structure Instant where
  date : Date
  hour : Nat
  minute : Nat
  /-- 60 is a leap second. -/
  second : Nat
  nano : Nat
  date_exists : date.Exists
  hour_lt : hour < 24
  minute_lt : minute < 60
  second_le : second ≤ 60
  nano_lt : nano < 1000000000
  deriving DecidableEq

namespace Instant

/-- The instant with the given parts, if there is one. -/
def ofParts? (date : Date) (hour minute second nano : Nat) : Option Instant :=
  if h : date.Exists ∧ hour < 24 ∧ minute < 60 ∧ second ≤ 60 ∧ nano < 1000000000 then
    some ⟨date, hour, minute, second, nano, h.1, h.2.1, h.2.2.1, h.2.2.2.1, h.2.2.2.2⟩
  else none

/-- A number that grows with time: each part counts in a base above its largest value. -/
def rank (t : Instant) : Int :=
  let day := (t.date.year * 13 + t.date.month) * 32 + t.date.day
  (((day * 24 + t.hour) * 60 + t.minute) * 61 + t.second) * 1000000000 + t.nano

end Instant

end Folio.Time
