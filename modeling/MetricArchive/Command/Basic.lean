import MetricArchive.Buffer.Basic
import MetricArchive.Config.Settings
import MetricArchive.LogLevel
import MetricArchive.Report.Duration
import MetricArchive.Report.Table
import MetricArchive.Source.Target
import MetricArchive.Store.File
import MetricArchive.Store.Resolve

/-!
# Commands

A command works on the files of a machine and shows what it does on two streams and in a
log. It ends by itself, or with an exit code, or because of something that no one expected. The
streams are 80 columns wide, and what is shown on them is marked-up text.
-/
namespace MetricArchive

inductive StoreFault where
  | location (f : LocationFault)
  | opening (f : OpeningFault)
  | refused (r : StoreRefusal)
  deriving DecidableEq, Repr

def StoreFault.message : StoreFault → String
  | .location f => f.message
  | .opening f => f.message
  | .refused r => r.message

/-- The problem that a fault is, if it is one that is expected. -/
def StoreFault.problem? : StoreFault → Option Problem
  | .location (.problem p) => some p
  | .refused r => r.problem?
  | _ => none

inductive Breakage where
  | target (f : TargetFault)
  | store (f : StoreFault)
  | source (f : SourceFailure)
  | writer (f : Failure)
  | markup (f : Report.MarkupFault)
  | config (f : ConfigFault)
  | settings (f : SettingsFault)
  | capacity (n : Int)
  | overlongPath (p : Path)
  | closedPath (p : Path)
  | duration (f : DurationFault)
  deriving DecidableEq, Repr

def Breakage.message : Breakage → String
  | .target f => f.message
  | .store f => f.message
  | .source f => f.message
  | .writer f => f.message
  | .markup f => f.message
  | .config f => f.message
  | .settings .homeUnknown => Path.unknownHomeMessage
  | .settings (.invalid faults) =>
    "Invalid settings: " ++ ", ".intercalate (faults.map fun (s, f) => s.name ++ " " ++ f.name)
  | .capacity n => Buffer.capacityMessage n
  | .overlongPath p => Workspace.overlongMessage p
  | .closedPath p => Workspace.closedMessage p
  | .duration f => f.message

/-- How a command ends before its end. -/
inductive Ending where
  | exit (code : Nat)
  /-- A problem that has still to be shown. -/
  | problem (p : Problem)
  | broken (b : Breakage)
  deriving DecidableEq, Repr

structure Job where
  source : Source
  output : Path
  capacity : Int
  listen : Bool
  host : String
  port : Int
  deriving DecidableEq, Repr

structure Progress where
  workspace : Workspace FileContent
  machine : Machine FileContent
  out : String
  err : String
  /-- The rank that an event must have to be logged. -/
  threshold : Nat
  log : List LogEntry
  job : Option Job
  /-- Addresses that have been asked for. -/
  requests : List String

def Progress.start (w : Workspace FileContent) (m : Machine FileContent) : Progress :=
  ⟨w, m, "", "", Severity.info.rank, [], none, []⟩

abbrev Command (α : Type) := ExceptT Ending (StateM Progress) α

namespace Command

def streamWidth : Nat := 80

def usageCode : Nat := 2

def failureCode : Nat := 1

def leave {α : Type} (code : Nat) : Command α := throw (.exit code)

def refuse {α : Type} (p : Problem) : Command α := throw (.problem p)

def breakOff {α : Type} (b : Breakage) : Command α := throw (.broken b)

def text (lines : List String) : String := String.join (lines.map (· ++ "\n"))

/-- The lines that a marked-up text takes on a stream. -/
def laidOut (markup : String) : Command (List String) :=
  match Report.Markup.shown markup with
  | .ok shown => return Report.wrap .fold streamWidth shown
  | .error f => breakOff (.markup f)

def printLines (lines : List String) : Command Unit :=
  modify fun p => { p with out := p.out ++ text lines }

def print (markup : String) : Command Unit := do printLines (← laidOut markup)

def printError (markup : String) : Command Unit := do
  let lines ← laidOut markup
  modify fun p => { p with err := p.err ++ text lines }

def printTable (t : Report.Table) : Command Unit :=
  match t.lines streamWidth with
  | .ok lines => printLines lines
  | .error f => breakOff (.markup f)

def printInfo (message : String) : Command Unit := print ("[blue]ℹ[/blue] " ++ message)

/-- Adds the entries that are severe enough to the log. -/
def logEntries (entries : List LogEntry) : Command Unit :=
  modify fun p => { p with log := p.log ++ entries.filter (p.threshold ≤ ·.event.severity.rank) }

def logEvents (events : List Event) : Command Unit := logEntries (events.map fun e => ⟨e, none⟩)

/-- A value as it is shown beside its name. -/
def fieldText : Field → String
  | .none => "None"
  | .text s => s
  | .flag b => if b then "True" else "False"
  | .count n => toString n
  | .amount x => NumberLayout.plain.write x
  | .labels l => ", ".intercalate (l.map fun (k, v) => k ++ "=" ++ v)

/-- Shows a problem, with the values that it concerns if asked, and leaves. -/
def failWith {α : Type} (detailed : Bool) (p : Problem) : Command α := do
  printError ("\n[red]Error:[/red] " ++ p.message)
  if detailed && !p.context.isEmpty then
    printError "\n[yellow]Context:[/yellow]"
    p.context.forM fun (k, v) => printError ("  " ++ k ++ ": " ++ fieldText v)
  leave failureCode

/-- Runs a command, and if it ends with a problem, shows that. -/
def showingProblems {α : Type} (detailed : Bool) (c : Command α) : Command α :=
  tryCatch c fun
    | .problem p => failWith detailed p
    | ending => throw ending

/-- Shows what no one expected and leaves. -/
def failUnexpected {α : Type} (b : Breakage) : Command α := do
  printError ("\n[red]Unexpected Error:[/red] " ++ b.message)
  leave failureCode

/-- Opens the store for an output, making its folder first; the store has its tables then. -/
def openStore (homes : Path.Homes) (output : Path) : Command (Except StoreFault KeptStore) := do
  match Location.url homes output.text with
  | .error f => return .error (.location f)
  | .ok url =>
    let machine := (← get).machine
    let opening := Opening.start (← get).workspace url machine
    modify fun p => { p with workspace := opening.workspace }
    logEvents opening.events
    match opening.result with
    | .error f => return .error (.opening f)
    | .ok connection =>
      match KeptStore.open opening.workspace connection.target machine with
      | .error r => return .error (.refused r)
      | .ok kept =>
        modify fun p => { p with workspace := kept.save p.workspace }
        logEvents [.storeInitialized]
        return .ok kept

end Command

end MetricArchive
