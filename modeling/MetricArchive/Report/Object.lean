import MetricArchive.Exposition.Family
import MetricArchive.Number.Layout

/-!
# Named values

Events, problems and summaries carry values by name. Numbers are also written as an object, each on
a line of its own and indented by two blanks.
-/
namespace MetricArchive

inductive Field where
  | none
  | text (s : String)
  | flag (b : Bool)
  | count (n : Int)
  | amount (x : Binary64)
  | labels (l : Labels)
  deriving DecidableEq, Repr

namespace Report

/-- A value as a JSON number; a value that is none is null. -/
def jsonNumber : Field → String
  | .count n => toString n
  | .amount x => NumberLayout.write ⟨-4, 15, 2, "NaN", "Infinity"⟩ x
  | _ => "null"

def memberText (name : String) (value : Field) : String :=
  "  \"" ++ name ++ "\": " ++ jsonNumber value

def objectLines (members : List (String × Field)) : List String :=
  let last := members.length - 1
  let line := fun (m : (String × Field) × Nat) =>
    memberText m.1.1 m.1.2 ++ (if m.2 = last then "" else ",")
  ["\x7b"] ++ members.zipIdx.map line ++ ["\x7d"]

end Report

end MetricArchive
