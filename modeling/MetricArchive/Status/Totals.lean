import MetricArchive.Exposition.Render
import MetricArchive.Number.Layout
import MetricArchive.Pipeline.Summary
import MetricArchive.Text.Split

/-!
# A pipeline's totals as an exposition

What a pipeline counts can itself be scraped: a counter for each total, and gauges for the buffer
and for whether the pipeline is running.
-/
namespace MetricArchive

/-- What a status page can show of a pipeline. -/
structure Status where
  source : String
  /-- Whether the store has been made ready. -/
  initialized : Bool
  running : Bool
  depth : Int
  capacity : Int
  summary : Summary
  deriving DecidableEq, Repr

namespace Status

open Exposition

/-- Positive numbers with more than this many digits before the point have an exponent. -/
def positionalDigits : Nat := 6

/-- A positive number that would be written positionally has an exponent from a million up, of two
digits at least. -/
def valueText (n : Int) : String :=
  let plain := NumberLayout.plain.write (.ofInt n)
  match Text.cutAt '.' plain.toList with
  | (first :: whole, some fraction) =>
    if 0 < n && positionalDigits ≤ whole.length then
      let digits := whole ++ fraction
      let rest := (digits.reverse.dropWhile (· == '0')).reverse
      String.ofList (first :: (if rest.isEmpty then [] else '.' :: rest)) ++ "e+" ++
        Moment.padded 2 whole.length
    else plain
  | _ => plain

def measured (name : String) (kind : MetricKind) (help : String) (value : Int) : WrittenFamily :=
  ⟨name, kind, help, [⟨name, [], valueText value, none⟩]⟩

def counter (total help : String) (value : Int) : WrittenFamily :=
  measured s!"promstash_{total}_total" .counter help value

def gauge (name help : String) (value : Int) : WrittenFamily :=
  measured s!"promstash_{name}" .gauge help value

def families (s : Status) : List WrittenFamily :=
  [counter "scrapes_attempted" "Scrapes attempted" s.summary.attempted,
    counter "scrapes_succeeded" "Scrapes fetched and parsed" s.summary.succeeded,
    counter "scrapes_failed" "Scrapes that failed to fetch or parse" s.summary.failed,
    counter "scrapes_dropped" "Scrapes dropped from a full buffer" s.summary.dropped,
    counter "scrapes_written" "Scrapes committed to the store" s.summary.written,
    counter "scrapes_write_failed" "Scrapes rolled back by the store" s.summary.writeFailed,
    counter "samples_written" "Samples committed to the store" s.summary.samplesWritten,
    counter "samples_lost" "Samples lost to rolled-back writes" s.summary.samplesLost,
    gauge "buffer_depth" "Scrapes waiting in the buffer" s.depth,
    gauge "buffer_capacity" "Scrapes the buffer holds before dropping" s.capacity,
    gauge "pipeline_running" "1 while the pipeline is scraping" s.running.toNat]

end Status

end MetricArchive
