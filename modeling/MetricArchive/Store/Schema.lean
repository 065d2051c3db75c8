/-!
# The schema of a store

Tables with their columns, foreign keys and indexes, and views, as a database lists them. Unique
columns and compound primary keys have indexes of their own.
-/
namespace MetricArchive.Schema

/-- `key` is the place of a column in the primary key, counted from one, or zero. -/
structure Column where
  name : String
  type : String
  required : Bool
  key : Nat
  deriving DecidableEq, Repr

structure ForeignKey where
  table : String
  column : String
  target : String
  onUpdate : String
  onDelete : String
  deriving DecidableEq, Repr

structure Index where
  name : String
  columns : List String
  deriving DecidableEq, Repr

structure Table where
  name : String
  columns : List Column
  foreignKeys : List ForeignKey
  indexes : List Index
  deriving DecidableEq, Repr

def idColumn : Column := ⟨"id", "INTEGER", true, 1⟩

def text (name : String) : Column := ⟨name, "VARCHAR", true, 0⟩

def reference (table column onDelete : String) : ForeignKey :=
  ⟨table, column, "id", "NO ACTION", onDelete⟩

def metric : Table :=
  ⟨"metric", [idColumn, text "name", text "type", text "help"], [],
    [⟨"sqlite_autoindex_metric_1", ["name"]⟩]⟩

def labelValue : Table :=
  ⟨"label_value", [idColumn, text "label", text "value"], [],
    [⟨"ix_label_value_label_value", ["label", "value"]⟩]⟩

def series : Table :=
  ⟨"series", [idColumn, ⟨"metric_id", "INTEGER", true, 0⟩],
    [reference "metric" "metric_id" "CASCADE"], []⟩

def labelSet : Table :=
  ⟨"label_set", [⟨"label_value_id", "INTEGER", true, 1⟩, ⟨"series_id", "INTEGER", true, 2⟩],
    [reference "label_value" "label_value_id" "NO ACTION",
      reference "series" "series_id" "CASCADE"],
    [⟨"sqlite_autoindex_label_set_1", ["label_value_id", "series_id"]⟩,
      ⟨"ix_label_set_series_id", ["series_id"]⟩]⟩

def sample : Table :=
  ⟨"sample",
    [idColumn, ⟨"series_id", "INTEGER", true, 0⟩, ⟨"timestamp", "BIGINT", true, 0⟩,
      ⟨"value", "FLOAT", false, 0⟩],
    [reference "series" "series_id" "CASCADE"],
    [⟨"ix_sample_series_id_timestamp", ["series_id", "timestamp"]⟩]⟩

def tables : List Table := [metric, labelValue, series, labelSet, sample]

def views : List String := ["label_set_view", "series_view"]

/-- Every object as kind, name and table, the counters' own table among them. -/
def objects : List (String × String × String) :=
  tables.map (fun t => ("table", t.name, t.name)) ++
    [("table", "sqlite_sequence", "sqlite_sequence")] ++
    tables.flatMap (fun t => t.indexes.map fun i => ("index", i.name, t.name)) ++
    views.map fun v => ("view", v, v)

end MetricArchive.Schema
