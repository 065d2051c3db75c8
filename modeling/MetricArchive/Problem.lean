import MetricArchive.Event
import MetricArchive.Exposition.Fault

/-!
# Problems

An expected failure: its kind, a message for people and the values that it concerns. Failures that
nothing in the program expects are not problems.
-/
namespace MetricArchive

inductive ProblemKind where
  | general
  | configuration
  | parsing
  | fetching
  | storage
  | bufferClosed
  deriving DecidableEq, Repr

structure Problem where
  kind : ProblemKind
  message : String
  context : List (String × Field)
  deriving DecidableEq, Repr

namespace Problem

def parsing (line : Int) (reason token : String) : Problem :=
  ⟨.parsing, Exposition.faultMessage line reason token,
    [("line_number", .count line), ("token", .text token)]⟩

def fetching (url reason : String) (status : Option Int) : Problem :=
  ⟨.fetching, s!"Fetch of {url} failed: {reason}",
    [("url", .text url), ("reason", .text reason), ("status_code", status.elim .none .count)]⟩

def bufferClosed : Problem := ⟨.bufferClosed, "Scrape buffer is closed", []⟩

def configuration (message : String) (context : List (String × Field)) : Problem :=
  ⟨.configuration, message, context⟩

end Problem

end MetricArchive
