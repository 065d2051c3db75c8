import MetricArchive.Exposition.LabelSet
import MetricArchive.Exposition.Number
import MetricArchive.Text.Blank

/-!
# One line of an exposition

A line is blank, a comment, a HELP line, a TYPE line or a sample, and is read without regard to
the other lines. Whether a HELP or TYPE line comes too late is decided where lines are assembled,
so the kind that a TYPE line names stays a word here.
-/
namespace MetricArchive.Exposition

open Text

inductive LineContent where
  | nothing
  | help (metric text : String)
  | kind (metric : String) (word : Option (List Char))
  | sample (s : Sample)
  deriving DecidableEq, Repr

def keyword? (word : List Char) : Option Keyword :=
  if word == ['H', 'E', 'L', 'P'] then some .help
  else if word == ['T', 'Y', 'P', 'E'] then some .type
  else none

def describe (keyword : Keyword) (metric text : List Char) : LineContent :=
  match keyword with
  | .help => .help (String.ofList metric) (String.ofList (unescapeHelp text))
  | .type => .kind (String.ofList metric) (if text.isEmpty then none else some (trim text))

/-- A line that starts with a number sign, given without it and as a whole. -/
def readComment (line body : List Char) : Except LineRefusal LineContent :=
  let (word, rest) := cutWord body
  match keyword? word with
  | none => .ok .nothing
  | some keyword =>
    let (metric, text) := cutWord rest
    if metric.isEmpty then .error (.fault (.missingMetricName keyword) line)
    else if isName isMetricStart isMetricChar metric then
      .ok (describe keyword metric (trimStart text))
    else .error (.fault .invalidMetricName metric)

/-- The labels and the fields after a metric name. A name ends at a space, a tab or a brace. -/
def readAfterName (line rest : List Char) : Except LineRefusal (Labels × List (List Char)) :=
  match skipSpace rest with
  | '{' :: body => (readLabels line [] body).map fun (labels, tail) => (labels, words tail)
  | tail =>
    if rest.head?.any (fun c => !isSpaceOrTab c) then
      .error (.fault .invalidMetricName (cutWord line).1)
    else .ok ([], words tail)

def readFields (name : List Char) : List (List Char) → Except LineRefusal (Binary64 × Option Moment)
  | [] => .error (.fault .missingValue name)
  | [value] => (readValue value).map (·, none)
  | [value, timestamp] => do
    let x ← readValue value
    let t ← readTimestamp timestamp
    return (x, some t)
  | _ :: _ :: surplus :: _ => .error (.fault .surplusToken surplus)

/-- A trimmed line that holds a sample. -/
def readSample (constants : Labels) (line : List Char) : Except LineRefusal Sample :=
  match cutName isMetricStart isMetricChar line with
  | none => .error (.fault .invalidMetricName (cutWord line).1)
  | some (name, rest) => do
    let (scraped, fields) ← readAfterName line rest
    let (value, timestamp) ← readFields name fields
    return ⟨String.ofList name, withConstants constants scraped, value, timestamp⟩

/-- A line without its break. -/
def readLine (constants : Labels) (raw : List Char) : Except LineRefusal LineContent :=
  match trim raw with
  | [] => .ok .nothing
  | '#' :: body => readComment ('#' :: body) body
  | line => (readSample constants line).map .sample

end MetricArchive.Exposition
