import MetricArchive.Event
import MetricArchive.Store.Cache
import MetricArchive.Store.Tables
import MetricArchive.Text.Excerpt

/-!
# Resolving series

A series is a metric together with a set of label pairs. Resolving looks rows up, first in a cache
and then in the tables, and adds what is missing. The kind and help text of a metric are those of
its first sight.
-/
namespace MetricArchive

inductive Failure where
  /-- A row would point at a row that does not exist. -/
  | integrity
  /-- The database engine refused. -/
  | operational
  /-- The store itself refused. -/
  | storage
  | unknownKind (word : String)
  /-- Anything else, which no writer handles. -/
  | unexpected (message : String)
  deriving DecidableEq, Repr

namespace Failure

/-- Failures after which a writer goes on to the next scrape. -/
def isHandled : Failure → Bool
  | .integrity => true
  | .operational => true
  | .storage => true
  | _ => false

def name : Failure → String
  | .integrity => "IntegrityError"
  | .operational => "OperationalError"
  | .storage => "StorageError"
  | .unknownKind _ => "ValueError"
  | .unexpected _ => "RuntimeError"

def message : Failure → String
  | .unknownKind word => Text.excerpt word ++ " is not a valid MetricKind"
  | .unexpected message => message
  | _ => ""

end Failure

/-- A metric with the label pairs of one of its series. -/
structure SeriesRequest where
  name : String
  kind : String
  help : String
  labels : Labels
  deriving DecidableEq, Repr

/-- The identifiers that a writer remembers. -/
structure SeriesCache where
  metrics : StagedCache String Nat
  labels : StagedCache (String × String) Nat
  series : StagedCache (Nat × List Nat) Nat
  deriving DecidableEq, Repr

namespace SeriesCache

def empty : SeriesCache := ⟨.empty, .empty, .empty⟩

def commit (c : SeriesCache) : SeriesCache :=
  ⟨c.metrics.commit, c.labels.commit, c.series.commit⟩

def rollback (c : SeriesCache) : SeriesCache :=
  ⟨c.metrics.rollback, c.labels.rollback, c.series.rollback⟩

end SeriesCache

/-- A store inside a transaction, with the cache in use and what was reported. -/
structure Session where
  store : Store
  cache : SeriesCache
  events : List Event
  deriving DecidableEq, Repr

namespace Session

def report (s : Session) (e : Event) : Session := { s with events := s.events ++ [e] }

def resolveMetric (s : Session) (r : SeriesRequest) : Except Failure Nat × Session :=
  match s.cache.metrics.get? r.name with
  | some id => (.ok id, s)
  | none =>
    match s.store.metricId? r.name with
    | some id => (.ok id, { s with cache.metrics := s.cache.metrics.stage r.name id })
    | none =>
      if (MetricKind.ofName? r.kind).isNone then (.error (.unknownKind r.kind), s)
      else
        let (id, store) := s.store.addMetric r.name r.kind r.help
        (.ok id,
          { s with store, cache.metrics := s.cache.metrics.stage r.name id }.report
            (.metricCreated r.name id r.kind))

def resolveLabel (s : Session) (label value : String) : Nat × Session :=
  match s.cache.labels.get? (label, value) with
  | some id => (id, s)
  | none =>
    let (id, store) :=
      match s.store.labelId? label value with
      | some id => (id, s.store)
      | none => s.store.addLabel label value
    (id, { s with store, cache.labels := s.cache.labels.stage (label, value) id })

/-- Puts an identifier into an ascending list, unless it is there. -/
def insertId (id : Nat) : List Nat → List Nat
  | [] => [id]
  | i :: rest =>
    if id < i then id :: i :: rest
    else if id = i then i :: rest
    else i :: insertId id rest

/-- The identifiers of label pairs as an ascending list. -/
def resolveLabels (s : Session) : Labels → List Nat × Session
  | [] => ([], s)
  | (label, value) :: rest =>
    let (id, s) := s.resolveLabel label value
    let (ids, s) := resolveLabels s rest
    (insertId id ids, s)

/-- The series of a request. A failure leaves what was done before it in the session. -/
def resolve (s : Session) (r : SeriesRequest) : Except Failure Nat × Session :=
  match s.resolveMetric r with
  | (.error e, s) => (.error e, s)
  | (.ok metricId, s) =>
    let (labelIds, s) := s.resolveLabels r.labels
    let stage := fun (s : Session) id =>
      { s with cache.series := s.cache.series.stage (metricId, labelIds) id }
    match s.cache.series.get? (metricId, labelIds) with
    | some id => (.ok id, s)
    | none =>
      match s.store.seriesId? metricId labelIds with
      | some id => (.ok id, stage s id)
      | none =>
        match s.store.addSeries? metricId labelIds with
        | none => (.error .integrity, s)
        | some (id, store) =>
          (.ok id, stage ({ s with store }.report (.seriesCreated r.name id r.labels)) id)

end Session

end MetricArchive
