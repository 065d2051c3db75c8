import MetricArchive.Event
import MetricArchive.Exposition.Payload
import MetricArchive.Scrape
import MetricArchive.Source.Reply
import MetricArchive.Url.Http

/-!
# Attempts to scrape

An attempt gives a scrape, or it fails and is counted as failed, or something goes wrong that ends
the source. Whatever it comes to is reported.
-/
namespace MetricArchive

/-- What ends a source at once. -/
inductive SourceFailure where
  | breakdown (b : Exposition.Breakdown)
  | closedStream
  | address (f : UrlFault)
  | hostName (f : Url.NameFault)
  | headers (f : HeaderFault)
  | unexpected (kind text : String)
  deriving DecidableEq, Repr

def SourceFailure.message : SourceFailure → String
  | .breakdown b => b.message
  | .closedStream => "I/O operation on closed file."
  | .address f => f.message
  | .hostName f => f.message
  | .headers f => f.message
  | .unexpected _ text => text

structure SourceMetrics where
  attempted : Nat
  succeeded : Nat
  failed : Nat
  deriving DecidableEq, Repr

/-- Without a scrape the attempt failed. -/
structure Attempt where
  result : Except SourceFailure (Option Scrape)
  events : List Event

namespace Attempt

/-- The scrape that a payload makes, unless it was refused. -/
def ofReading (name : String) (now : Moment) (r : Exposition.Reading) : Attempt :=
  match r.result with
  | .error (.breakdown b) => ⟨.error (.breakdown b), r.events⟩
  | .error (.fault f) =>
    ⟨.ok none, r.events ++ [.scrapeMalformed name now f.cause.reason f.line f.token]⟩
  | .ok families =>
    let s : Scrape := ⟨now, families, name⟩
    ⟨.ok (some s), r.events ++ [.scrapeCollected name now families.length s.sampleCount]⟩

def scrape? (a : Attempt) : Option Scrape :=
  match a.result with
  | .ok s => s
  | .error _ => none

def failure? (a : Attempt) : Option SourceFailure :=
  match a.result with
  | .ok _ => none
  | .error f => some f

end Attempt

namespace SourceMetrics

def zero : SourceMetrics := ⟨0, 0, 0⟩

/-- An attempt that ends the source counts as neither success nor failure. -/
def count (m : SourceMetrics) (a : Attempt) : SourceMetrics :=
  match a.result with
  | .ok (some _) => { m with attempted := m.attempted + 1, succeeded := m.succeeded + 1 }
  | .ok none => { m with attempted := m.attempted + 1, failed := m.failed + 1 }
  | .error _ => { m with attempted := m.attempted + 1 }

def ofAttempts (l : List Attempt) : SourceMetrics := l.foldl count zero

end SourceMetrics

end MetricArchive
