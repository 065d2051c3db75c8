import Mathlib.Data.Rat.Floor
import MetricArchive.Proofs.Time.Calendar
import MetricArchive.Time.Moment

/-!
# Instants

A span of microseconds is the same number of microseconds once it is cut into days, seconds and a
rest, so the conversions of milliseconds into moments and back cancel wherever both exist. Main
statements: the milliseconds that lie in the calendar are those of the instants it has, and no
other limit comes first; the milliseconds of a moment are its microseconds over a thousand, rounded
down, whatever clock it was read off.
-/
namespace MetricArchive

namespace Span

theorem toMicros_ofMicros (n : Int) : (ofMicros n).toMicros = n := by
  simp only [ofMicros, toMicros, Int.fdiv_eq_ediv_of_nonneg _ (show (0 : Int) ≤ 86400 by decide),
    Int.fdiv_eq_ediv_of_nonneg _ (show (0 : Int) ≤ 1000000 by decide),
    Int.fmod_eq_emod_of_nonneg _ (show (0 : Int) ≤ 86400 by decide),
    Int.fmod_eq_emod_of_nonneg _ (show (0 : Int) ≤ 1000000 by decide)]
  omega

theorem days_ofMicros (n : Int) : (ofMicros n).days = n / 86400000000 := by
  simp only [ofMicros, Int.fdiv_eq_ediv_of_nonneg _ (show (0 : Int) ≤ 86400 by decide),
    Int.fdiv_eq_ediv_of_nonneg _ (show (0 : Int) ≤ 1000000 by decide)]
  omega

end Span

namespace Moment

/-- The first and the last instant of the calendar, in milliseconds. -/
def firstMillis : Int := -62135596800000

def lastMillis : Int := 253402300799999

variable {m n : Moment} {millis : Int}

theorem plus?_ofMicros (k : Int) : epoch.plus? (.ofMicros k) =
    if Date.hasDay (Int.fdiv k 86400000000) then some (.utc k) else none := by
  simp [plus?, Span.toMicros_ofMicros, epoch, utc]

theorem hasDay_millis : Date.hasDay (Int.fdiv (millis * 1000) 86400000000) ↔
    firstMillis ≤ millis ∧ millis ≤ lastMillis := by
  rw [Date.hasDay_iff, Int.fdiv_eq_ediv_of_nonneg _ (by decide), firstMillis, lastMillis]
  omega

/-- The limit of spans lies far outside of the calendar. -/
theorem ofMillis?_eq_some (h : firstMillis ≤ millis ∧ millis ≤ lastMillis) :
    Span.ofMillis? millis = some (.ofMicros (millis * 1000)) := by
  refine if_pos ?_
  rw [Span.days_ofMicros, Span.daysLimit]
  simp only [firstMillis, lastMillis] at h
  omega

theorem ofEpochMillis?_eq (millis : Int) : ofEpochMillis? millis =
    if firstMillis ≤ millis ∧ millis ≤ lastMillis then some (.utc (millis * 1000)) else none := by
  unfold ofEpochMillis?
  split_ifs with h
  · rw [ofMillis?_eq_some h, Option.bind_some, plus?_ofMicros, if_pos (hasDay_millis.mpr h)]
  · -- either the span is too long, or the calendar does not have the day
    simp only [Span.ofMillis?]
    split_ifs
    · rw [Option.bind_some, plus?_ofMicros, if_neg (mt hasDay_millis.mp h)]
    · rfl

theorem epochMillis_eq (m : Moment) : m.epochMillis = m.micros / 1000 := by
  have hepoch : epoch.micros = 0 := rfl
  have hunit : Span.millisecond.toMicros = 1000 := rfl
  rw [epochMillis, Span.quotient, since, Span.toMicros_ofMicros, hepoch, hunit, sub_zero,
    Int.fdiv_eq_ediv_of_nonneg _ (by decide)]

theorem epochMillis_eq_floor (m : Moment) : m.epochMillis = ⌊(m.micros : ℚ) / 1000⌋ := by
  rw [epochMillis_eq]
  exact_mod_cast (Rat.floor_intCast_div_natCast m.micros 1000).symm

theorem epochMillis_mono (h : m.micros ≤ n.micros) : m.epochMillis ≤ n.epochMillis := by
  rw [epochMillis_eq, epochMillis_eq]
  exact Int.ediv_le_ediv (by decide) h

theorem epochMillis_utc (k : Int) : (utc (k * 1000)).epochMillis = k := by
  have hmicros : (utc (k * 1000)).micros = k * 1000 := sub_zero _
  rw [epochMillis_eq, hmicros, Int.mul_ediv_cancel _ (by decide)]

end Moment

end MetricArchive
