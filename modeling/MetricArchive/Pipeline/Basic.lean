import MetricArchive.Buffer.Basic
import MetricArchive.Source.Attempt
import MetricArchive.Store.Writer

/-!
# Pipelines

A pipeline moves scrapes from a source through a buffer into a store. Its producer makes the
attempts of the source one by one and puts each scrape into the buffer; its consumer takes the
scrapes and writes them. The two take turns in any order: `next` says which turns are possible and
what each leads to. When the source ends, the producer closes the buffer and the consumer goes on
until it is empty. When either fails, the run is given up, and a write that has begun is undone.

How long a turn takes is not covered; a source is the list of what its attempts will come to.
-/
namespace MetricArchive

inductive Producer where
  | asking
  /-- It has a scrape that is not in the buffer yet. -/
  | holding (s : Scrape)
  /-- The source has ended, with a failure or by itself, and the buffer is not closed yet. -/
  | closing (failure : Option SourceFailure)
  | ended (failure : Option SourceFailure)
  deriving DecidableEq, Repr

inductive Consumer where
  | waiting
  | ready
  /-- It has a scrape whose write has begun. -/
  | writing (s : Scrape)
  | finished
  | failed (failure : Failure)
  /-- The run was given up; the scrape is one whose write was undone. -/
  | abandoned (s : Option Scrape)
  deriving DecidableEq, Repr

structure Pipeline where
  name : String
  /-- What the attempts that the source has still to make will come to. -/
  ahead : List Attempt
  stopping : Bool
  source : SourceMetrics
  producer : Producer
  buffer : Buffer Scrape
  consumer : Consumer
  writer : Writer
  store : Store
  started : Option Moment
  finished : Option Moment
  log : List LogEntry

inductive Turn where
  /-- Someone asks the pipeline to stop; the source makes no more attempts. -/
  | stop
  | attempt
  | put
  | close
  | begin
  | take
  | write
  | giveUp
  deriving DecidableEq, Repr

/-- What is reported when a put dropped a scrape and left the given buffer. -/
def Buffer.overflow (dropped : Option Scrape) (b : Buffer Scrape) : List Event :=
  match dropped with
  | none => []
  | some s => [.bufferOverflow s.collectedAt s.sampleCount b.metrics.dropped b.capacity]

namespace Pipeline

def new (name : String) (ahead : List Attempt) (buffer : Buffer Scrape) (writer : Writer)
    (store : Store) : Pipeline :=
  ⟨name, ahead, false, .zero, .asking, buffer, .waiting, writer, store, none, none, []⟩

def isRunning (p : Pipeline) : Bool := p.started.isSome && p.finished.isNone

/-- Logs events; those of a run name the target. -/
def report (p : Pipeline) (events : List Event) : Pipeline :=
  let target := if p.isRunning then some p.name else none
  { p with log := p.log ++ events.map fun e => ⟨e, target⟩ }

def stop (p : Pipeline) : Pipeline :=
  let p := if p.stopping then p else p.report [.pipelineStopping p.name p.buffer.depth]
  { p with stopping := true }

def attempt (p : Pipeline) (a : Attempt) (rest : List Attempt) : Pipeline :=
  let p := { p with ahead := rest, source := p.source.count a }.report a.events
  match a.result with
  | .ok none => p
  | .ok (some s) => { p with producer := .holding s }
  | .error failure => { p with producer := .closing (some failure) }

def put (p : Pipeline) (s : Scrape) : Option Pipeline :=
  (p.buffer.put s).map fun (dropped, b) =>
    { p with buffer := b, producer := .asking }.report (Buffer.overflow dropped b)

def take (p : Pipeline) : Option Pipeline :=
  match p.buffer.take with
  | (.item s, b) => some { p with buffer := b, consumer := .writing s }
  | (.finished, b) =>
    some ({ p with buffer := b, consumer := .finished }.report [.writerFinished p.writer.metrics])
  | (.nothingYet, _) => none

def write (d : Disruption) (p : Pipeline) (s : Scrape) : Pipeline :=
  let o := Writer.write d p.store p.writer s
  let consumer := match o.result with
    | .ok _ => Consumer.ready
    | .error failure => .failed failure
  { p with writer := o.writer, store := o.store, consumer }.report o.events

def sourceFailure? (p : Pipeline) : Option SourceFailure :=
  match p.producer with
  | .ended failure => failure
  | _ => none

def writerFailure? (p : Pipeline) : Option Failure :=
  match p.consumer with
  | .failed failure => some failure
  | _ => none

/-- What is left when the run is given up: a closed buffer, and a write undone if one had begun. -/
def abandon (p : Pipeline) : Pipeline :=
  let consumer := match p.consumer with
    | .waiting | .ready => Consumer.abandoned none
    | .writing s => .abandoned (some s)
    | c => c
  { p with
    stopping := true
    producer := .ended p.sourceFailure?
    buffer := p.buffer.close
    consumer
    writer := { p.writer with cache := p.writer.cache.rollback } }

/-- Whether someone has failed and someone else has still to be told. -/
def mustGiveUp (p : Pipeline) : Bool :=
  match p.producer, p.consumer with
  | .ended (some _), .waiting | .ended (some _), .ready | .ended (some _), .writing _ => true
  | .ended _, .failed _ => false
  | _, .failed _ => true
  | _, _ => false

/-- The pipeline after a turn, if the turn is possible. -/
def next (d : Disruption) (p : Pipeline) (t : Turn) : Option Pipeline :=
  match t, p.producer, p.consumer with
  | .stop, _, _ => some p.stop
  | .attempt, .asking, _ =>
    match p.stopping, p.ahead with
    | false, a :: rest => some (p.attempt a rest)
    | _, _ => some { p with producer := .closing none }
  | .put, .holding s, _ => p.put s
  | .close, .closing failure, _ =>
    some { p with producer := .ended failure, buffer := p.buffer.close }
  | .begin, _, .waiting => some ({ p with consumer := .ready }.report [.writerStarted])
  | .take, _, .ready => p.take
  | .write, _, .writing s => some (p.write d s)
  | .giveUp, _, _ => if p.mustGiveUp then some p.abandon else none
  | _, _, _ => none

/-- The pipeline after some turns, if all of them are possible. -/
def after (d : Disruption) (p : Pipeline) (turns : List Turn) : Option Pipeline :=
  turns.foldlM (next d) p

/-- Whether the source and the writer have both ended by themselves. -/
def isComplete (p : Pipeline) : Bool :=
  match p.producer, p.consumer with
  | .ended none, .finished => true
  | _, _ => false

def secondsBetween (start finish : Moment) : Binary64 :=
  let d := finish.micros - start.micros
  .ofRatio (d < 0) d.natAbs 1000000

/-- The totals so far, or those at the end. -/
def summary (p : Pipeline) (now : Moment) : Summary where
  attempted := p.source.attempted
  succeeded := p.source.succeeded
  failed := p.source.failed
  dropped := p.buffer.metrics.dropped
  written := p.writer.metrics.scrapesWritten
  writeFailed := p.writer.metrics.scrapesFailed
  samplesWritten := p.writer.metrics.samplesWritten
  samplesLost := p.writer.metrics.samplesLost
  duration := .fraction <|
    p.started.elim .zero fun start => secondsBetween start (p.finished.getD now)

end Pipeline

end MetricArchive
