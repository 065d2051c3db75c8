/-!
# The civil calendar

Dates of the proleptic Gregorian calendar from year 1 to year 9999, and their day numbers counted
from the first of January 1970. `Date.dayNumber` and `Date.ofDayNumber` are inverse to each other;
leap seconds do not exist here.
-/
namespace MetricArchive

structure Date where
  year : Nat
  month : Nat
  day : Nat
  deriving DecidableEq, Repr

namespace Date

def isLeapYear (y : Nat) : Bool := y % 4 == 0 && (y % 100 != 0 || y % 400 == 0)

def monthLength (y m : Nat) : Nat :=
  if m = 2 then if isLeapYear y then 29 else 28
  else if m = 4 ∨ m = 6 ∨ m = 9 ∨ m = 11 then 30
  else 31

/-- Days of the years from year 1 up to, and without, the given one. -/
def daysBeforeYear (y : Nat) : Nat :=
  let p := y - 1
  365 * p + p / 4 - p / 100 + p / 400

def daysBeforeMonth (y m : Nat) : Nat :=
  (List.range (m - 1)).foldr (fun i days => monthLength y (i + 1) + days) 0

/-- The day number of the first of January of year 1, negated. -/
def epochOffset : Nat := 719162

def dayNumber (d : Date) : Int :=
  ((daysBeforeYear d.year + daysBeforeMonth d.year d.month + (d.day - 1) : Nat) : Int) - epochOffset

def first : Date := ⟨1, 1, 1⟩

def last : Date := ⟨9999, 12, 31⟩

def hasDay (n : Int) : Bool := first.dayNumber ≤ n && n ≤ last.dayNumber

/-- Peel off months, given the days left in the year counted from zero. -/
def splitMonths (y : Nat) : Nat → Nat → Nat → Nat × Nat
  | 0, m, rest => (m, rest)
  | fuel + 1, m, rest =>
    if rest < monthLength y m then (m, rest)
    else splitMonths y fuel (m + 1) (rest - monthLength y m)

/-- The year that holds a day counted from year 1: at most one more than the day count allows by
mean year length. -/
def yearOf (days : Nat) : Nat :=
  let guess := days * 400 / 146097 + 1
  if days < daysBeforeYear guess then guess - 1
  else if daysBeforeYear (guess + 1) ≤ days then guess + 1
  else guess

def ofDayNumber (n : Int) : Date :=
  let days := (n + epochOffset).toNat
  let y := yearOf days
  let (m, rest) := splitMonths y 12 1 (days - daysBeforeYear y)
  ⟨y, m, rest + 1⟩

end Date

/-- A date and a time of day as written, before any check. -/
structure CivilTime where
  year : Int
  month : Int
  day : Int
  hour : Int
  minute : Int
  second : Int
  microsecond : Int
  deriving DecidableEq, Repr

/-- The first field that is out of range, fields taken in order of size. -/
inductive CivilFault where
  | year (value : Int)
  | month
  | day
  | hour
  | minute
  | second
  | microsecond
  deriving DecidableEq, Repr

def CivilFault.message : CivilFault → String
  | .year value => s!"year {value} is out of range"
  | .month => "month must be in 1..12"
  | .day => "day is out of range for month"
  | .hour => "hour must be in 0..23"
  | .minute => "minute must be in 0..59"
  | .second => "second must be in 0..59"
  | .microsecond => "microsecond must be in 0..999999"

/-- Microseconds from the start of 1970 to a civil time, both read off the same clock. -/
def CivilTime.wall (c : CivilTime) : Except CivilFault Int :=
  if c.year < 1 ∨ 9999 < c.year then .error (.year c.year)
  else if c.month < 1 ∨ 12 < c.month then .error .month
  else if c.day < 1 ∨ (Date.monthLength c.year.toNat c.month.toNat : Int) < c.day then .error .day
  else if c.hour < 0 ∨ 23 < c.hour then .error .hour
  else if c.minute < 0 ∨ 59 < c.minute then .error .minute
  else if c.second < 0 ∨ 59 < c.second then .error .second
  else if c.microsecond < 0 ∨ 999999 < c.microsecond then .error .microsecond
  else
    let days := Date.dayNumber ⟨c.year.toNat, c.month.toNat, c.day.toNat⟩
    .ok ((((days * 24 + c.hour) * 60 + c.minute) * 60 + c.second) * 1000000 + c.microsecond)

end MetricArchive
