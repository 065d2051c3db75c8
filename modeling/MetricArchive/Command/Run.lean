import MetricArchive.Command.Database
import MetricArchive.Command.Scrape
import MetricArchive.Config.EnvFile

/-!
# Running a command line

The options that come first are checked, then the name of the command, then the settings are read,
and only then the arguments of the command itself. A command line that cannot be understood ends
with a code of its own.
-/
namespace MetricArchive

def version : String := "0.1.0"

inductive CommandName where
  | scrape
  | database
  deriving DecidableEq, Repr

def CommandName.ofText? : String → Option CommandName
  | "scrape" => some .scrape
  | "db" => some .database
  | _ => none

namespace Command

/-- Logging: everything if asked, else from the configured level on, and in quiet operation at
least from warnings on. -/
def logThreshold (g : GlobalOptions) (s : Settings) : Nat :=
  match LogLevel.resolve (if g.verbose then "DEBUG" else s.logLevel) g.quiet with
  | .ok (.rank n) => n
  | _ => 0

/-- The configuration that a path names, which must be a file that may be read. -/
def namedConfig (path : String) : Command String := do
  let p ← get
  match if path.isEmpty then none else p.workspace.read? (Path.ofText path) p.machine with
  | some content => return String.ofList (Text.Utf8.decodeLossy content.bytes)
  | none => leave usageCode

/-- Variables from the file that holds some in the working folder. -/
def fileVariables (h : Host) (w : Workspace FileContent) : EnvFile.Variables :=
  match w.at? [".env"] with
  | some (.file content) =>
    EnvFile.read (h.environment ++ [("HOME", h.homes.own)])
      (ConfigFile.unifyBreaks (Text.Utf8.decodeLossy content.bytes))
  | _ => []

def readSettings (h : Host) (config : Option String) : Command Settings := do
  match config.elim (.ok .empty) ConfigFile.read with
  | .error f => breakOff (.config f)
  | .ok file =>
    let sources := ⟨[], h.environment, file.values, fileVariables h (← get).workspace⟩
    match Settings.read h.homes sources with
    | .ok s => return s
    | .error f => breakOff (.settings f)

def refuseFormat {α : Type} (format : String) : Command α := do
  printError ("[red]Error:[/red] Invalid output format: " ++ format)
  printError "Valid formats: table, json"
  leave failureCode

def runScrape (execute : Job → Command Summary) (g : GlobalOptions) (s : Settings)
    (args : List String) : Command Unit :=
  match ScrapeOptions.read args with
  | none => leave usageCode
  | some o => o.run execute g s

def runDatabase (h : Host) (g : GlobalOptions) (s : Settings) (args : List String) :
    Command Unit :=
  match Arguments.read [] false args with
  | some ⟨_, name :: rest⟩ =>
    match DatabaseAction.ofName? name with
    | some action => action.run h.homes g s rest
    | none => leave usageCode
  | _ => leave usageCode

def runNamed (h : Host) (execute : Job → Command Summary) (g : GlobalOptions)
    (config : Option String) (name : CommandName) (args : List String) : Command Unit := do
  if g.format != GlobalOptions.tableFormat && g.format != GlobalOptions.jsonFormat then
    refuseFormat g.format
  let s ← readSettings h config
  modify fun p => { p with threshold := logThreshold g s }
  match name with
  | .scrape => runScrape execute g s args
  | .database => runDatabase h g s args

/-- Runs a command line; `execute` runs its pipeline. -/
def run (h : Host) (execute : Job → Command Summary) (args : List String) :
    Command Unit := do
  match GlobalOptions.read args with
  | none => leave usageCode
  | some (g, rest) =>
    if g.version then print ("promstash version: " ++ version)
    else
      let config ← match g.config with
        | none => pure h.config
        | some path => some <$> namedConfig path
      match rest with
      | [] => leave usageCode
      | name :: rest =>
        match CommandName.ofText? name with
        | none => leave usageCode
        | some name => runNamed h execute g config name rest

/-- How a command line ends and what it has done until then. -/
def perform (h : Host) (w : Workspace FileContent) (execute : Job → Command Summary)
    (args : List String) (m : Machine FileContent := .unknown) : Except Ending Unit × Progress :=
  StateT.run (ExceptT.run (run h execute args)) (.start w m)

end Command

end MetricArchive
