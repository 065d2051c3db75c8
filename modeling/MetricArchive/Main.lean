import MetricArchive.Command.Run
import Std.Time.DateTime

/-!
# The program

Reads the files that the arguments name, the clock and the environment, runs the command line on
them, and shows what it came to. Stores live as long as the program, and nothing is fetched.
-/
namespace MetricArchive.Program

def contents? (path : String) : IO (Option (List UInt8)) := do
  try return some (← IO.FS.readBinFile path).data.toList catch _ => return none

/-- Adds a file of the working folder or outside it, together with the folders that lead to it. -/
def addFile (w : Workspace FileContent) (m : Machine FileContent) (p : Path)
    (content : FileContent) : Workspace FileContent × Machine FileContent :=
  let names := p.steps.foldl Path.move (p.origin m.here)
  match m.below? names with
  | some inner => (w.addFile inner content, m)
  | none => (w, { m with entries := (Workspace.addFile ⟨m.entries⟩ names content).entries })

/-- The files among some paths. -/
def gather (paths : List String) : IO (Workspace FileContent × Machine FileContent) := do
  let here := (Path.ofText (← IO.currentDir).toString).names
  let found ← paths.filterMapM fun path => do
    return (← contents? path).map fun bytes => (Path.ofText path, FileContent.data bytes)
  return found.foldl (fun (w, m) (p, content) => addFile w m p content) (.empty, ⟨here, [], [], []⟩)

def environment : IO (List (String × String)) := do
  let names := (Setting.layout.flatMap (·.2)).map fun (_, setting) =>
    (SettingSources.variablePrefix ++ setting.name).toUpper
  names.filterMapM fun name => do return (← IO.getEnv name).map (name, ·)

def now : IO Moment := do
  return .utc ((← Std.Time.Timestamp.now).toNanosecondsSinceUnixEpoch.val / 1000)

def homeConfig (home : String) : IO (Option String) := do
  return (← contents? (home ++ "/.promstash/config.yaml")).map fun bytes =>
    String.ofList (Text.Utf8.decodeLossy bytes)

/-- The standard input, if a target asks for it. -/
def input (args : List String) : IO (List UInt8) := do
  if args.contains "-" then return (← (← IO.getStdin).readBinToEnd).data.toList else return []

def host (args : List String) : IO Host := do
  let home := (← IO.getEnv "HOME").getD "/"
  let moment ← now
  return ⟨⟨home, []⟩, ← environment, ← homeConfig home, ⟨.ok (← input args), false⟩,
    fun _ => .transport "ConnectError" "no network", fun _ => moment, moment, moment, 1⟩

def logLine (e : LogEntry) : String :=
  " ".intercalate (e.event.severity.name :: e.event.name ::
    e.fields.map fun (k, v) => k ++ "=" ++ Command.fieldText v)

def run (args : List String) : IO UInt32 := do
  let h ← host args
  let target := (h.environment.lookup "PROMSTASH_TARGET").toList
  let (files, machine) ← gather (".env" :: args ++ target)
  let (ending, progress) := Command.perform h files (Job.run h) args machine
  IO.print progress.out
  progress.log.forM fun e => IO.eprintln (logLine e)
  IO.eprint progress.err
  match ending with
  | .ok _ => return 0
  | .error (.exit code) => return code.toUInt32
  | .error (.problem p) =>
    IO.eprintln p.message
    return 1
  | .error (.broken b) =>
    IO.eprintln b.message
    return 1

end MetricArchive.Program

def main (args : List String) : IO UInt32 := MetricArchive.Program.run args
