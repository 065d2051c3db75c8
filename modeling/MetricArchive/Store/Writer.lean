import MetricArchive.Scrape
import MetricArchive.Store.Resolve

/-!
# Writing scrapes

Each scrape is written in a transaction of its own: all of its samples or none. The store is a
value, so rolling back is to go on with the value from before, identifiers included. A failure that
is handled counts the scrape as lost and the writer goes on; any other failure passes through. What
fails is decided by a disruption: which calls to resolve a series, the insertion of the points, and
the commit.
-/
namespace MetricArchive

/-- The failures that a transaction meets. Calls are counted over the life of a writer. -/
structure Disruption where
  resolve : Nat → Option Failure
  insert : Option Failure
  commit : Option Failure

namespace Disruption

def none : Disruption := ⟨fun _ => .none, .none, .none⟩

/-- Every call to resolve from a given one on fails. -/
def after (calls : Nat) (failure : Failure) : Disruption :=
  ⟨fun n => if calls ≤ n then some failure else .none, .none, .none⟩

end Disruption

structure Writer where
  cache : SeriesCache
  metrics : WriterMetrics
  /-- Calls made to resolve a series. -/
  calls : Nat
  deriving DecidableEq, Repr

namespace Writer

def new : Writer := ⟨.empty, ⟨0, 0, 0, 0⟩, 0⟩

/-- A transaction: the session, the calls made so far and the points collected. -/
structure Draft where
  session : Session
  calls : Nat
  points : List Store.NewPoint
  deriving DecidableEq, Repr

/-- The samples of a scrape in order, each with what its series is made of. -/
def requests (s : Scrape) : List (SeriesRequest × Sample) :=
  s.families.flatMap fun f =>
    f.samples.map fun p => (⟨p.name, f.kind.name, f.help, p.labels⟩, p)

/-- Resolves the samples in order until one fails. -/
def draft (d : Disruption) (s : Scrape) (t : Draft) :
    List (SeriesRequest × Sample) → Option Failure × Draft
  | [] => (none, t)
  | (request, sample) :: rest =>
    match d.resolve t.calls with
    | some failure => (some failure, { t with calls := t.calls + 1 })
    | none =>
      match t.session.resolve request with
      | (.error failure, session) => (some failure, { t with session, calls := t.calls + 1 })
      | (.ok id, session) =>
        let point := ⟨id, (s.timestampOf sample).epochMillis, sample.value⟩
        draft d s ⟨session, t.calls + 1, t.points ++ [point]⟩ rest

/-- The transaction of a scrape up to and with its commit, and the store that it leaves. -/
def transact (d : Disruption) (store : Store) (w : Writer) (s : Scrape) :
    Except Failure Store × Draft :=
  match draft d s ⟨⟨store, w.cache, []⟩, w.calls, []⟩ (requests s) with
  | (some failure, t) => (.error failure, t)
  | (none, t) =>
    if t.points.isEmpty then
      match d.commit with
      | some failure => (.error failure, t)
      | none => (.ok t.session.store, t)
    else
      match d.insert, t.session.store.addPoints? t.points, d.commit with
      | some failure, _, _ => (.error failure, t)
      | none, none, _ => (.error .integrity, t)
      | none, some _, some failure => (.error failure, t)
      | none, some store, none => (.ok store, t)

/-- What a write returned or which failure passed through, and everything that it changed. -/
structure Outcome where
  result : Except Failure Nat
  store : Store
  writer : Writer
  events : List Event

def write (d : Disruption) (store : Store) (w : Writer) (s : Scrape) : Outcome :=
  let n := s.sampleCount
  match transact d store w s with
  | (.ok committed, t) =>
    let metrics := { w.metrics with
      scrapesWritten := w.metrics.scrapesWritten + 1
      samplesWritten := w.metrics.samplesWritten + n }
    ⟨.ok n, committed, ⟨t.session.cache.commit, metrics, t.calls⟩,
      t.session.events ++ [.scrapeWritten s.source s.collectedAt s.families.length n]⟩
  | (.error failure, t) =>
    let cache := t.session.cache.rollback
    if failure.isHandled then
      let metrics := { w.metrics with
        scrapesFailed := w.metrics.scrapesFailed + 1
        samplesLost := w.metrics.samplesLost + n }
      ⟨.ok 0, store, ⟨cache, metrics, t.calls⟩,
        t.session.events ++ [.writeFailed s.source s.collectedAt n failure.name]⟩
    else ⟨.error failure, store, ⟨cache, w.metrics, t.calls⟩, t.session.events⟩

/-- Writes scrapes in order until a failure passes through; gives the scrapes not taken up. -/
def writeAll (d : Disruption) (store : Store) (w : Writer) :
    List Scrape → Option Failure × List Scrape × Store × Writer × List Event
  | [] => (none, [], store, w, [])
  | s :: rest =>
    let o := write d store w s
    match o.result with
    | .error failure => (some failure, rest, o.store, o.writer, o.events)
    | .ok _ =>
      let (failure, left, store, w, events) := writeAll d o.store o.writer rest
      (failure, left, store, w, o.events ++ events)

end Writer

end MetricArchive
