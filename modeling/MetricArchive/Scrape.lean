import MetricArchive.Exposition.Family

/-!
# Scrapes

One reading of a source: what it said, when it was collected and from where. A sample without a
timestamp of its own counts as taken when the scrape was collected.
-/
namespace MetricArchive

structure Scrape where
  collectedAt : Moment
  families : List MetricFamily
  source : String
  deriving DecidableEq, Repr

namespace Scrape

def sampleCount (s : Scrape) : Nat := (s.families.flatMap (·.samples)).length

def timestampOf (s : Scrape) (sample : Sample) : Moment := sample.timestamp.getD s.collectedAt

end Scrape

end MetricArchive
