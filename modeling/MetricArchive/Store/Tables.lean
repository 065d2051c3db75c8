import MetricArchive.Exposition.Family

/-!
# The tables of a store

Metric metadata, pooled label pairs, series, the membership of label pairs in series, and sample
points. Rows are only ever appended. Identifiers of metrics, label pairs and series come from
counters that are part of the store, so that giving up a transaction gives its identifiers back.
Foreign keys are checked when a row is added.
-/
namespace MetricArchive

structure MetricRow where
  id : Nat
  name : String
  kind : String
  help : String
  deriving DecidableEq, Repr

structure LabelRow where
  id : Nat
  label : String
  value : String
  deriving DecidableEq, Repr

structure SeriesRow where
  id : Nat
  metricId : Nat
  deriving DecidableEq, Repr

structure MemberRow where
  labelId : Nat
  seriesId : Nat
  deriving DecidableEq, Repr

/-- A point without a value stands for a NaN, which the table cannot hold. -/
structure PointRow where
  id : Nat
  seriesId : Nat
  timestamp : Int
  value : Option Binary64
  deriving DecidableEq, Repr

/-- The greatest identifiers given out so far, zero for none. -/
structure Counters where
  metric : Nat
  label : Nat
  series : Nat
  deriving DecidableEq, Repr

structure Store where
  metrics : List MetricRow
  labels : List LabelRow
  series : List SeriesRow
  members : List MemberRow
  points : List PointRow
  counters : Counters
  deriving DecidableEq, Repr

namespace Store

def empty : Store := ⟨[], [], [], [], [], ⟨0, 0, 0⟩⟩

def metricId? (s : Store) (name : String) : Option Nat :=
  (s.metrics.find? (·.name == name)).map (·.id)

/-- The least identifier of a label pair. -/
def labelId? (s : Store) (label value : String) : Option Nat :=
  ((s.labels.filter fun r => r.label == label && r.value == value).map (·.id)).min?

def memberCount (s : Store) (seriesId : Nat) : Nat :=
  s.members.countP (·.seriesId == seriesId)

/-- How many label pairs a series has among the given ones. -/
def matchCount (s : Store) (seriesId : Nat) (labelIds : List Nat) : Nat :=
  s.members.countP fun r => r.seriesId == seriesId && labelIds.contains r.labelId

/-- The least series of a metric with exactly the given label pairs, found by counting: as many
pairs as given, and as many of the given ones. -/
def seriesId? (s : Store) (metricId : Nat) (labelIds : List Nat) : Option Nat :=
  ((s.series.filter fun r =>
    r.metricId == metricId && s.memberCount r.id == labelIds.length &&
      s.matchCount r.id labelIds == labelIds.length).map (·.id)).min?

def addMetric (s : Store) (name kind help : String) : Nat × Store :=
  let id := s.counters.metric + 1
  (id,
    { s with
      metrics := s.metrics ++ [⟨id, name, kind, help⟩]
      counters := { s.counters with metric := id } })

def addLabel (s : Store) (label value : String) : Nat × Store :=
  let id := s.counters.label + 1
  (id,
    { s with
      labels := s.labels ++ [⟨id, label, value⟩]
      counters := { s.counters with label := id } })

/-- Adds a series with its members; none if the metric or a label pair does not exist. -/
def addSeries? (s : Store) (metricId : Nat) (labelIds : List Nat) : Option (Nat × Store) :=
  let id := s.counters.series + 1
  if s.metrics.any (·.id == metricId) && labelIds.all (fun l => s.labels.any (·.id == l)) then
    some (id,
      { s with
        series := s.series ++ [⟨id, metricId⟩]
        members := s.members ++ labelIds.map (⟨·, id⟩)
        counters := { s.counters with series := id } })
  else none

/-- What a table keeps of a value: a NaN is no value and a zero has no sign. -/
def storedValue (x : Binary64) : Option Binary64 := if x.isNaN then none else some x.dropZeroSign

/-- A point before it has an identifier. -/
structure NewPoint where
  seriesId : Nat
  timestamp : Int
  value : Binary64
  deriving DecidableEq, Repr

def lastPointId (s : Store) : Nat := (s.points.map (·.id)).max?.getD 0

/-- Adds points in order; none if a series does not exist. -/
def addPoints? (s : Store) (points : List NewPoint) : Option Store :=
  if points.all fun p => s.series.any (·.id == p.seriesId) then
    some { s with
      points := s.points ++ points.mapIdx fun i p =>
        ⟨s.lastPointId + i + 1, p.seriesId, p.timestamp, storedValue p.value⟩ }
  else none

end Store

end MetricArchive
