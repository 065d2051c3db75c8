import MetricArchive.Event
import MetricArchive.Exposition.Line
import MetricArchive.Text.Line
import MetricArchive.Text.Utf8

/-!
# Assembling a payload

Lines are read in order and put into families. A sample goes to the family in use if its name fits
there, else to the family of its own name; a HELP or TYPE line makes its family the one in use. The
first line that cannot be read ends the reading, and then no family is returned.
-/
namespace MetricArchive.Exposition

open Text

/-- A family under assembly, and which of its descriptions have been given. -/
structure OpenFamily where
  family : MetricFamily
  hasKind : Bool
  hasHelp : Bool
  deriving DecidableEq, Repr

def OpenFamily.new (name : String) : OpenFamily := ⟨⟨name, .untyped, "", []⟩, false, false⟩

def OpenFamily.addSample (f : OpenFamily) (s : Sample) : OpenFamily :=
  { f with family := { f.family with samples := f.family.samples ++ [s] } }

def OpenFamily.setHelp (f : OpenFamily) (text : String) : OpenFamily :=
  { f with family := { f.family with help := text }, hasHelp := true }

def OpenFamily.setKind (f : OpenFamily) (kind : MetricKind) : OpenFamily :=
  { f with family := { f.family with kind := kind }, hasKind := true }

/-- Families in the order in which a line first named them, and the name of the one in use. -/
structure Assembly where
  families : List OpenFamily
  current : Option String
  events : List Event
  deriving Repr

namespace Assembly

def empty : Assembly := ⟨[], none, []⟩

def find? (a : Assembly) (name : String) : Option OpenFamily :=
  a.families.find? (·.family.name == name)

/-- The family of a name, opened if no line named it before. -/
def «open» (a : Assembly) (name : String) : OpenFamily × List OpenFamily :=
  match a.find? name with
  | some f => (f, a.families)
  | none => (.new name, a.families ++ [.new name])

def update (families : List OpenFamily) (name : String) (change : OpenFamily → OpenFamily) :
    List OpenFamily :=
  families.map fun f => if f.family.name == name then change f else f

/-- Changes the family of a name, which is opened if needed and becomes the one in use. -/
def use (a : Assembly) (name : String) (change : OpenFamily → OpenFamily) : Assembly :=
  { a with families := update (a.open name).2 name change, current := some name }

def report (a : Assembly) (news : List Event) : Assembly := { a with events := a.events ++ news }

def owner (a : Assembly) (sample : String) : String :=
  match a.current.bind a.find? with
  | some f => if MetricFamily.fits f.family.name f.family.kind sample then f.family.name else sample
  | none => sample

def hasSamples (a : Assembly) (name : String) : Bool :=
  (a.find? name).any fun f => !f.family.samples.isEmpty

/-- Puts the content of a line into its family. -/
def add (a : Assembly) (line : Nat) : LineContent → Except LineRefusal Assembly
  | .nothing => .ok a
  | .sample s => .ok (a.use (a.owner s.name) (·.addSample s))
  | .help metric text =>
    if a.hasSamples metric then .error (.fault (.afterSamples .help metric) metric.toList)
    else
      let again := (a.open metric).1.hasHelp
      .ok ((a.use metric (·.setHelp text)).report
        (if again then [.duplicateHelp metric line] else []))
  | .kind metric word =>
    if a.hasSamples metric then .error (.fault (.afterSamples .type metric) metric.toList)
    else
      match word with
      | none => .error (.fault .missingKind metric.toList)
      | some word =>
        match MetricKind.ofName? (String.ofList word) with
        | none => .error (.fault .unknownKind word)
        | some kind =>
          let again := (a.open metric).1.hasKind
          .ok ((a.use metric (·.setKind kind)).report
            (if again then [.duplicateKind metric line] else []))

def feed (constants : Labels) (a : Assembly) (line : Nat) (raw : List Char) :
    Except Refusal Assembly :=
  match (readLine constants raw).bind (a.add line) with
  | .ok a => .ok a
  | .error e => .error (e.at line)

/-- Feeds lines until one is refused, and gives the state reached. -/
def feedAll (constants : Labels) (a : Assembly) : List (Nat × List Char) → Assembly × Option Refusal
  | [] => (a, none)
  | (n, raw) :: rest =>
    match a.feed constants n raw with
    | .ok a => feedAll constants a rest
    | .error e => (a, some e)

def finish (a : Assembly) : List MetricFamily := a.families.map (·.family)

end Assembly

/-- The families of a payload, or why it was refused, and what was reported on the way. -/
structure Reading where
  result : Except Refusal (List MetricFamily)
  events : List Event

/-- Reads a text under constant labels. -/
def read (constants : Labels) (text : List Char) : Reading :=
  match Assembly.empty.feedAll constants (numberedLines text) with
  | (a, none) => ⟨.ok a.finish, a.events⟩
  | (a, some e) => ⟨.error e, a.events⟩

/-- Reads bytes, which must be UTF-8. -/
def readBytes (constants : Labels) (bytes : List UInt8) : Reading :=
  match Utf8.decode bytes with
  | .ok text => read constants text
  | .error position => ⟨.error (.fault ⟨0, .notUtf8 position, ""⟩), []⟩

end MetricArchive.Exposition
