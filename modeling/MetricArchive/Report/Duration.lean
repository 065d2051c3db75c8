import MetricArchive.Source.Seconds

/-!
# Durations for people

Below a second in milliseconds, below a minute in seconds, below an hour in minutes and seconds,
and else in hours and minutes. Whole seconds are divided exactly, fractions as floating-point
numbers: the quotient is rounded to a number first and then down, so a large one can be off.
-/
namespace MetricArchive

inductive DurationFault where
  | notANumber
  | hugeNumber
  deriving DecidableEq, Repr

def DurationFault.message : DurationFault → String
  | .notANumber => "cannot convert float NaN to integer"
  | .hugeNumber => "int too large to convert to float"

namespace Seconds

/-- The quotient of a finite number that is not negative, rounded down; it is taken from the nearest
number to it, and one that is nearly a whole number above counts as that. -/
def quotient (x : Rat) (d : Nat) : Int :=
  let rest := x - (x / d).floor * d
  let nearest := fun (r : Rat) => (Binary64.ofRat r).toRat?.getD 0
  let q := nearest (nearest (x - rest) / d)
  if 1 / 2 < q - q.floor then q.floor + 1 else q.floor

def divMod (s : Seconds) (d : Nat) : Except DurationFault (Int × Seconds) :=
  match s with
  | .whole n => .ok (n / d, .whole (n % d))
  | .fraction x =>
    match x.toRat? with
    | none => .error .notANumber
    | some r => .ok (quotient r d, .fraction (.ofRat (r - (r / d).floor * d)))

def isBelow (s : Seconds) (bound : Int) : Bool :=
  match s with
  | .whole n => n < bound
  | .fraction x => x < .ofInt bound

/-- A number with a fixed count of digits after the point. -/
def places (count : Nat) (s : Seconds) : Except DurationFault String :=
  match s, s.value with
  | .whole _, .infinite _ => .error .hugeNumber
  | _, x => .ok (fixedPlaces count x)

def thousandfold : Seconds → Seconds
  | .whole n => .whole (1000 * n)
  | .fraction x => .fraction (x * .ofInt 1000)

end Seconds

namespace Report

def durationText (s : Seconds) : Except DurationFault String := do
  if s.isBelow 1 then return (← s.thousandfold.places 2) ++ "ms"
  else if s.isBelow 60 then return (← s.places 2) ++ "s"
  else if s.isBelow 3600 then
    let (minutes, rest) ← s.divMod 60
    return s!"{minutes}m " ++ (← rest.places 1) ++ "s"
  else
    let (hours, rest) ← s.divMod 3600
    let (minutes, _) ← rest.divMod 60
    return s!"{hours}h {minutes}m"

end Report

end MetricArchive
