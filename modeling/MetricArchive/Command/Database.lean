import MetricArchive.Command.Basic
import MetricArchive.Command.Options
import MetricArchive.Report.Object
import MetricArchive.Store.View

/-!
# Commands on a store

One makes the tables where they are missing, the other counts the rows. Whatever goes wrong in a
store is shown on the first stream.
-/
namespace MetricArchive

inductive DatabaseAction where
  | prepare
  | countRows
  deriving DecidableEq, Repr

namespace DatabaseAction

def ofName? : String → Option DatabaseAction
  | "init" => some .prepare
  | "stats" => some .countRows
  | _ => none

/-- The output that the arguments name, if any; fails unless there is at most one. -/
def readOutput (args : List String) : Option (Option Path) :=
  match Arguments.read [] true args with
  | some ⟨_, []⟩ => some none
  | some ⟨_, [output]⟩ => some (some (Path.ofText output))
  | _ => none

def fail {α : Type} (message : String) : Command α := do
  Command.print ("[bold red]✗[/bold red] " ++ message)
  Command.leave Command.failureCode

def prepareStore (homes : Path.Homes) (output : Path) : Command Unit := do
  match ← Command.openStore homes output with
  | .error f => fail ("Schema initialization failed: " ++ f.message)
  | .ok _ => Command.print ("[bold green]✓[/bold green] Schema ready in " ++ output.text)

def totalCount (counts : List (String × Nat)) : Nat := counts.foldr (fun (_, n) total => n + total) 0

def countsTable (output : Path) (counts : List (String × Nat)) : Report.Table where
  title := "Rows in " ++ output.text
  header := some ["Table", "Rows"]
  alignments := [.left, .right]
  sections := [counts.map fun (table, n) => [table, grouped n],
    [["total", grouped (totalCount counts : Nat)]]]

def exists? (p : Path) : Command Bool := do
  let progress ← get
  match progress.workspace.locate p progress.machine with
  | .overlong => Command.breakOff (.overlongPath p)
  | .closed => Command.breakOff (.closedPath p)
  | _ => return (progress.workspace.find? p progress.machine).isSome

def missingTableMessage : String := "(sqlite3.OperationalError) no such table: metric"

def showCounts (homes : Path.Homes) (format : String) (output : Path) : Command Unit := do
  if !(← exists? output) then fail ("Database not found: " ++ output.text)
  match ← Command.openStore homes output with
  | .error f => fail ("Failed to read statistics: " ++ f.message)
  | .ok kept =>
    if !kept.lasts then fail ("Failed to read statistics: " ++ missingTableMessage)
    let counts := kept.store.counts
    if format == GlobalOptions.jsonFormat then
      Command.printLines (Report.objectLines (counts.map fun (table, n) => (table, .count n)))
    else Command.printTable (countsTable output counts)

def run (homes : Path.Homes) (g : GlobalOptions) (s : Settings) (a : DatabaseAction)
    (args : List String) : Command Unit :=
  match readOutput args with
  | none => Command.leave Command.usageCode
  | some output =>
    match a with
    | .prepare => prepareStore homes (output.getD s.output)
    | .countRows => showCounts homes g.format (output.getD s.output)

end DatabaseAction

end MetricArchive
