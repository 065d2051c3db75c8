import MetricArchive.Pipeline.Summary

/-!
# Events

What the program reports while it runs. An event has a severity, a name and named fields in a fixed
order; it also belongs to the part of the program that reported it. Durations are left out.
-/
namespace MetricArchive

inductive Severity where
  | debug
  | info
  | warning
  | error
  deriving DecidableEq, Repr

def Severity.name : Severity → String
  | .debug => "debug"
  | .info => "info"
  | .warning => "warning"
  | .error => "error"

/-- How severe an event is as a number; a threshold is a number too. -/
def Severity.rank : Severity → Nat
  | .debug => 10
  | .info => 20
  | .warning => 30
  | .error => 40

structure WriterMetrics where
  scrapesWritten : Nat
  scrapesFailed : Nat
  samplesWritten : Nat
  samplesLost : Nat
  deriving DecidableEq, Repr

def WriterMetrics.fields (m : WriterMetrics) : List (String × Field) :=
  [("scrapes_written", .count m.scrapesWritten), ("scrapes_failed", .count m.scrapesFailed),
    ("samples_written", .count m.samplesWritten), ("samples_lost", .count m.samplesLost)]

inductive Event where
  | duplicateHelp (metric : String) (line : Nat)
  | duplicateKind (metric : String) (line : Nat)
  | bufferOverflow (collectedAt : Moment) (samples dropped capacity : Nat)
  | metricCreated (metric : String) (id : Nat) (kind : String)
  | seriesCreated (metric : String) (id : Nat) (labels : Labels)
  | engineCreated
  | storeInitialized
  | scrapeWritten (source : String) (collectedAt : Moment) (families samples : Nat)
  | writeFailed (source : String) (collectedAt : Moment) (lost : Nat) (failure : String)
  | writerStarted
  | writerFinished (metrics : WriterMetrics)
  | scrapeCollected (source : String) (collectedAt : Moment) (families samples : Nat)
  | scrapeMalformed (source : String) (collectedAt : Moment) (reason : String) (line : Nat)
      (token : String)
  | readFailed (source reason : String)
  | fetchFailed (source : String) (collectedAt : Moment) (reason : String) (status : Option Int)
  | scrapeOverrun (source : String) (behind : Binary64)
  | pipelineStopping (source : String) (buffered : Nat)
  | pipelineStarted (source : String) (capacity : Nat)
  | pipelineFinished (source : String) (summary : Summary)
  | folderCreated
  | commandFinished (target output : String)
  deriving DecidableEq, Repr

namespace Event

def severity : Event → Severity
  | .duplicateHelp .. | .duplicateKind .. | .bufferOverflow .. | .scrapeOverrun .. => .warning
  | .writeFailed .. | .scrapeMalformed .. | .readFailed .. | .fetchFailed .. => .error
  | .metricCreated .. | .seriesCreated .. | .engineCreated | .writerStarted | .writerFinished _
  | .scrapeCollected .. => .debug
  | .storeInitialized | .scrapeWritten .. | .pipelineStopping .. | .pipelineStarted ..
  | .pipelineFinished .. | .folderCreated | .commandFinished .. => .info

def name : Event → String
  | .duplicateHelp .. => "duplicate_help"
  | .duplicateKind .. => "duplicate_type"
  | .bufferOverflow .. => "buffer_overflow"
  | .metricCreated .. => "metric_created"
  | .seriesCreated .. => "series_created"
  | .engineCreated => "SQLite engine created"
  | .storeInitialized => "store_initialized"
  | .scrapeWritten .. => "scrape_written"
  | .writeFailed .. => "scrape_write_failed"
  | .writerStarted => "writer_started"
  | .writerFinished _ => "writer_finished"
  | .scrapeCollected .. => "scrape_collected"
  | .scrapeMalformed .. => "scrape_failed"
  | .readFailed .. => "scrape_failed"
  | .fetchFailed .. => "scrape_failed"
  | .scrapeOverrun .. => "scrape_overrun"
  | .pipelineStopping .. => "pipeline_stopping"
  | .pipelineStarted .. => "pipeline_started"
  | .pipelineFinished .. => "pipeline_finished"
  | .folderCreated => "Creating database directory"
  | .commandFinished .. => "scrape_command_finished"

/-- The part of the program that reports an event. -/
def origin : Event → String
  | .duplicateHelp .. | .duplicateKind .. => "promstash.exposition.parser"
  | .bufferOverflow .. => "promstash.streaming.buffer_manager"
  | .metricCreated .. | .seriesCreated .. => "promstash.storage.normalizer"
  | .engineCreated | .folderCreated => "promstash.storage.engine"
  | .storeInitialized | .scrapeWritten .. | .writeFailed .. | .writerStarted
  | .writerFinished _ => "promstash.storage.writer"
  | .scrapeCollected .. | .scrapeMalformed .. | .readFailed .. | .fetchFailed ..
  | .scrapeOverrun .. => "promstash.streaming.sources"
  | .pipelineStopping .. | .pipelineStarted .. | .pipelineFinished .. =>
    "promstash.streaming.ingestor"
  | .commandFinished .. => "promstash.cli.scrape"

def fields : Event → List (String × Field)
  | .duplicateHelp metric line => [("metric", .text metric), ("line", .count line)]
  | .duplicateKind metric line => [("metric", .text metric), ("line", .count line)]
  | .bufferOverflow collected samples dropped capacity =>
    [("dropped_collected_at", .text collected.iso), ("dropped_samples", .count samples),
      ("total_dropped", .count dropped), ("capacity", .count capacity)]
  | .metricCreated metric id kind =>
    [("metric", .text metric), ("metric_id", .count id), ("kind", .text kind)]
  | .seriesCreated metric id labels =>
    [("metric", .text metric), ("series_id", .count id), ("labels", .labels labels)]
  | .engineCreated => []
  | .storeInitialized => []
  | .scrapeWritten source collected families samples =>
    [("source", .text source), ("collected_at", .text collected.iso),
      ("families", .count families), ("samples", .count samples)]
  | .writeFailed source collected lost failure =>
    [("source", .text source), ("collected_at", .text collected.iso),
      ("lost_samples", .count lost), ("error_type", .text failure)]
  | .writerStarted => []
  | .writerFinished m => m.fields
  | .scrapeCollected source collected families samples =>
    [("source", .text source), ("collected_at", .text collected.iso),
      ("families", .count families), ("samples", .count samples)]
  | .scrapeMalformed source collected reason line token =>
    [("source", .text source), ("collected_at", .text collected.iso), ("reason", .text reason),
      ("line", .count line), ("token", .text token)]
  | .readFailed source reason => [("source", .text source), ("reason", .text reason)]
  | .fetchFailed source collected reason status =>
    [("source", .text source), ("collected_at", .text collected.iso), ("reason", .text reason),
      ("status_code", status.elim .none .count)]
  | .scrapeOverrun source behind => [("source", .text source), ("behind_seconds", .amount behind)]
  | .pipelineStopping source buffered => [("source", .text source), ("buffered", .count buffered)]
  | .pipelineStarted source capacity =>
    [("source", .text source), ("buffer_capacity", .count capacity)]
  | .pipelineFinished source summary =>
    ("source", .text source) :: summary.counts.map fun (k, n) => (k, .count n)
  | .folderCreated => []
  | .commandFinished target output => [("target", .text target), ("output", .text output)]

end Event

/-- An event as it is logged: while a pipeline runs every event also names the target. -/
structure LogEntry where
  event : Event
  target : Option String
  deriving DecidableEq, Repr

def LogEntry.fields (e : LogEntry) : List (String × Field) :=
  e.event.fields ++ e.target.elim [] fun t => [("target", .text t)]

end MetricArchive
