import MetricArchive.Store.Tables

/-!
# Views of a store

Row counts, and series by name. The name of a series is its metric with the label pairs in braces,
in ascending order of their identifiers; these are gathered in a view of their own.
-/
namespace MetricArchive.Store

/-- Row counts by table, tables in order of dependence. -/
def counts (s : Store) : List (String × Nat) :=
  [("metric", s.metrics.length), ("label_value", s.labels.length), ("series", s.series.length),
    ("label_set", s.members.length), ("sample", s.points.length)]

/-- The label pairs of a series in ascending order of their identifiers. -/
def memberLabels (s : Store) (seriesId : Nat) : List LabelRow :=
  let ids := ((s.members.filter (·.seriesId == seriesId)).map (·.labelId)).mergeSort
  ids.flatMap fun id => s.labels.filter (·.id == id)

def labelText (r : LabelRow) : String := r.label ++ "=\"" ++ r.value ++ "\""

def labelSetText (s : Store) (seriesId : Nat) : String :=
  ", ".intercalate ((s.memberLabels seriesId).map labelText)

/-- Series that have label pairs, with these as text. -/
def labelSetView (s : Store) : List (Nat × String) :=
  let ids := (s.members.map (·.seriesId)).eraseDups.mergeSort
  (ids.filter fun id => !(s.memberLabels id).isEmpty).map fun id => (id, s.labelSetText id)

/-- What a view says of a series, or an empty text if it has no row for it. -/
def labelTexts (view : List (Nat × String)) (seriesId : Nat) : List String :=
  let texts := (view.filter (·.1 == seriesId)).map (·.2)
  if texts.isEmpty then [""] else texts

/-- Series by name. A series that has no label pairs keeps its row. -/
def seriesView (s : Store) : List (Nat × String) :=
  let view := s.labelSetView
  s.series.flatMap fun r =>
    (s.metrics.filter (·.id == r.metricId)).flatMap fun m =>
      (labelTexts view r.id).map fun labels => (r.id, m.name ++ "\x7b" ++ labels ++ "\x7d")

end MetricArchive.Store
