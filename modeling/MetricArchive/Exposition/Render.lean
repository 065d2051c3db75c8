import MetricArchive.Exposition.Family
import MetricArchive.Exposition.Quoted

/-!
# Writing an exposition

A family is a HELP line, a TYPE line and a line for each sample. The value of a sample is written
as the text that stands for it, so a number keeps the spelling it was given.
-/
namespace MetricArchive.Exposition

/-- A sample with the text of its value and its timestamp in milliseconds. -/
structure WrittenSample where
  name : String
  labels : Labels
  value : String
  timestamp : Option Int
  deriving DecidableEq, Repr

structure WrittenFamily where
  name : String
  kind : MetricKind
  help : String
  samples : List WrittenSample
  deriving DecidableEq, Repr

def labelText (label : String × String) : List Char :=
  label.1.toList ++ ['=', '"'] ++ escape label.2.toList ++ ['"']

/-- Nothing is written for no labels. -/
def labelSetText (labels : Labels) : List Char :=
  if labels.isEmpty then [] else ['{'] ++ [','].intercalate (labels.map labelText) ++ ['}']

def sampleLine (s : WrittenSample) : List Char :=
  s.name.toList ++ labelSetText s.labels ++ [' '] ++ s.value.toList ++
    s.timestamp.elim [] fun t => ' ' :: (toString t).toList

def helpLine (name help : String) : List Char :=
  ['#', ' ', 'H', 'E', 'L', 'P', ' '] ++ name.toList ++ [' '] ++ escapeHelp help.toList

def kindLine (name : String) (kind : MetricKind) : List Char :=
  ['#', ' ', 'T', 'Y', 'P', 'E', ' '] ++ name.toList ++ [' '] ++ kind.name.toList

def familyLines (f : WrittenFamily) : List (List Char) :=
  helpLine f.name f.help :: kindLine f.name f.kind :: f.samples.map sampleLine

/-- All lines of the families, each ended by a line feed. -/
def render (families : List WrittenFamily) : List Char :=
  (families.flatMap familyLines).flatMap fun line => line ++ ['\n']

end MetricArchive.Exposition
