/-!
# Spans of time

A span is kept as days, seconds of a day and microseconds of a second; only its days may be
negative. How many days it can have is limited.
-/
namespace MetricArchive

structure Span where
  days : Int
  seconds : Int
  micros : Int
  deriving DecidableEq, Repr

namespace Span

def ofMicros (n : Int) : Span :=
  let seconds := Int.fdiv n 1000000
  ⟨Int.fdiv seconds 86400, Int.fmod seconds 86400, Int.fmod n 1000000⟩

def toMicros (s : Span) : Int := (s.days * 86400 + s.seconds) * 1000000 + s.micros

def millisecond : Span := ⟨0, 0, 1000⟩

/-- The most days that a span can have, forwards or backwards. -/
def daysLimit : Nat := 999999999

/-- The span of so many milliseconds, if it is not too long. -/
def ofMillis? (n : Int) : Option Span :=
  let s := ofMicros (n * 1000)
  if s.days.natAbs ≤ daysLimit then some s else none

/-- How often a span goes into another, rounded down. -/
def quotient (s t : Span) : Int := Int.fdiv s.toMicros t.toMicros

end Span

end MetricArchive
