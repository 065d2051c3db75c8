import MetricArchive.Report.Object
import MetricArchive.Source.Seconds

/-!
# Totals of a pipeline

What became of the scrapes and samples of a run, and how long it took. Totals may come from
elsewhere, so they may be of any size and sign.
-/
namespace MetricArchive

structure Summary where
  attempted : Int
  succeeded : Int
  failed : Int
  dropped : Int
  written : Int
  writeFailed : Int
  samplesWritten : Int
  samplesLost : Int
  duration : Seconds
  deriving DecidableEq, Repr

namespace Summary

def counts (s : Summary) : List (String × Int) :=
  [("scrapes_attempted", s.attempted), ("scrapes_succeeded", s.succeeded),
    ("scrapes_failed", s.failed), ("scrapes_dropped", s.dropped), ("scrapes_written", s.written),
    ("scrapes_write_failed", s.writeFailed), ("samples_written", s.samplesWritten),
    ("samples_lost", s.samplesLost)]

/-- All totals by name, the duration last. -/
def fields (s : Summary) : List (String × Field) :=
  let duration : Field := match s.duration with
    | .whole n => .count n
    | .fraction x => .amount x
  s.counts.map (fun (k, n) => (k, .count n)) ++ [("duration_seconds", duration)]

/-- Whether any scrape did not reach the store. -/
def hasLosses (s : Summary) : Bool := s.dropped != 0 || s.failed != 0 || s.writeFailed != 0

end Summary

end MetricArchive
