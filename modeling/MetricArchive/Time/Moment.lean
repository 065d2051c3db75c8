import MetricArchive.Time.Calendar
import MetricArchive.Time.Span

/-!
# Moments

A moment is a clock reading in microseconds together with the clock's offset from universal time,
if the clock has one; a reading without an offset is taken as universal time. Stored timestamps
are whole milliseconds, rounded down, so the order of moments is kept before 1970 too.
-/
namespace MetricArchive

structure Moment where
  reading ::
  /-- Microseconds that the clock shows since the start of 1970. -/
  wall : Int
  /-- Microseconds that the clock is ahead of universal time. -/
  offset : Option Int
  deriving DecidableEq, Repr

namespace Moment

/-- A reading of a clock that is some minutes ahead of universal time. -/
def mk (wall : Int) (minutes : Option Int) : Moment := ⟨wall, minutes.map (· * 60000000)⟩

/-- A reading of a clock that shows universal time. -/
def utc (micros : Int) : Moment := ⟨micros, some 0⟩

/-- The start of 1970. -/
def epoch : Moment := utc 0

/-- Microseconds since the start of 1970 in universal time. -/
def micros (m : Moment) : Int := m.wall - m.offset.getD 0

def since (m n : Moment) : Span := .ofMicros (m.micros - n.micros)

/-- Milliseconds since the start of 1970 in universal time, rounded down. -/
def epochMillis (m : Moment) : Int := (m.since epoch).quotient .millisecond

/-- What the same clock shows after a span, if its calendar has that day. -/
def plus? (m : Moment) (s : Span) : Option Moment :=
  let wall := m.wall + s.toMicros
  if Date.hasDay (Int.fdiv wall 86400000000) then some { m with wall } else none

/-- The instant so many milliseconds after the start of 1970. There is none if they are more than a
span can have, or if the calendar does not have the day. -/
def ofEpochMillis? (ms : Int) : Option Moment := (Span.ofMillis? ms).bind epoch.plus?

/-- A natural number in decimal digits, filled with zeros to a width. -/
def padded (width n : Nat) : String :=
  let digits := Nat.toDigits 10 n
  String.ofList (List.replicate (width - digits.length) '0' ++ digits)

def dateText (d : Date) : String := s!"{padded 4 d.year}-{padded 2 d.month}-{padded 2 d.day}"

/-- Date and time of day; the fraction is six digits and is left out when it is zero. -/
def clockText (wall : Int) : String :=
  let seconds := Int.fdiv wall 1000000
  let fraction := (Int.fmod wall 1000000).toNat
  let date := Date.ofDayNumber (Int.fdiv seconds 86400)
  let t := (Int.fmod seconds 86400).toNat
  let time := s!"{padded 2 (t / 3600)}:{padded 2 (t / 60 % 60)}:{padded 2 (t % 60)}"
  dateText date ++ "T" ++ time ++ (if fraction = 0 then "" else "." ++ padded 6 fraction)

/-- Hours and minutes; seconds and their fraction are left out at the end if they are zero. -/
def offsetText (offset : Int) : String :=
  let n := offset.natAbs
  let seconds := n / 1000000
  let fraction := n % 1000000
  (if offset < 0 then "-" else "+") ++ padded 2 (seconds / 3600) ++ ":" ++
    padded 2 (seconds / 60 % 60) ++
    (if seconds % 60 = 0 && fraction = 0 then "" else ":" ++ padded 2 (seconds % 60)) ++
    (if fraction = 0 then "" else "." ++ padded 6 fraction)

/-- The reading followed by the clock's offset, if it has one. -/
def iso (m : Moment) : String :=
  clockText m.wall ++ (m.offset.elim "" offsetText)

/-- The reading in universal time, marked with a Z. -/
def isoZulu (m : Moment) : String := clockText m.micros ++ "Z"

end Moment

end MetricArchive
