import MetricArchive.Number.Binary64
import MetricArchive.Time.Moment

/-!
# Metric families

What an exposition says: families of one kind and one help text, each with samples. A sample of a
histogram or summary carries the family's name with a suffix that the kind allows.
-/
namespace MetricArchive

inductive MetricKind where
  | counter
  | gauge
  | histogram
  | summary
  | untyped
  deriving DecidableEq, Repr

namespace MetricKind

def name : MetricKind → String
  | .counter => "counter"
  | .gauge => "gauge"
  | .histogram => "histogram"
  | .summary => "summary"
  | .untyped => "untyped"

def all : List MetricKind := [.counter, .gauge, .histogram, .summary, .untyped]

def ofName? (s : String) : Option MetricKind := all.find? (·.name == s)

/-- What a sample's name may add to the name of its family. -/
def suffixes : MetricKind → List String
  | .histogram => ["_bucket", "_sum", "_count"]
  | .summary => ["_sum", "_count"]
  | _ => []

theorem ofName?_name (k : MetricKind) : ofName? k.name = some k := by
  cases k <;> decide

end MetricKind

/-- Label names with their values, in written order. -/
abbrev Labels := List (String × String)

/-- Gives a name a value; a name that has one keeps its place. -/
def Labels.set (l : Labels) (name value : String) : Labels :=
  if l.any (·.1 == name) then l.map fun p => if p.1 == name then (name, value) else p
  else l ++ [(name, value)]

/-- The mapping that pairs describe, the last value of a name standing. -/
def Labels.ofPairs (pairs : List (String × String)) : Labels :=
  pairs.foldl (fun l p => Labels.set l p.1 p.2) []

structure Sample where
  name : String
  labels : Labels
  value : Binary64
  timestamp : Option Moment
  deriving DecidableEq, Repr

structure MetricFamily where
  name : String
  kind : MetricKind
  help : String
  samples : List Sample
  deriving DecidableEq, Repr

namespace MetricFamily

/-- Whether a sample name is the family's name, alone or with a suffix of a kind. -/
def fits (family : String) (kind : MetricKind) (sample : String) : Bool :=
  sample == family || kind.suffixes.any fun suffix => sample == family ++ suffix

end MetricFamily

end MetricArchive
