import MetricArchive.Config.EnvFile
import MetricArchive.Config.Reading
import MetricArchive.Config.Setting
import MetricArchive.Path.Basic
import MetricArchive.Report.Object

/-!
# Settings

A setting is taken from the first place that gives it: values given outright, the environment, the
configuration file, a file of environment variables, and else its default. The output is the path of
a file, and a tilde at its front is a home.
-/
namespace MetricArchive

structure Settings where
  target : Option String
  output : Path
  interval : Binary64
  timeout : Option Binary64
  capacity : Int
  job : Option String
  «instance» : Option String
  statusEnabled : Bool
  statusHost : String
  statusPort : Int
  logLevel : String
  logFormat : String
  deriving DecidableEq, Repr

structure SettingSources where
  given : List (String × ConfigValue)
  environment : List (String × String)
  file : SettingValues
  fileVariables : EnvFile.Variables

inductive SettingsFault where
  /-- The settings with values that they cannot have. -/
  | invalid (faults : List (Setting × SettingFault))
  | homeUnknown
  deriving DecidableEq, Repr

namespace SettingSources

def variablePrefix : String := "promstash_"

def isNamed (name given : String) : Bool := Text.lowerCase given.toList == name.toList

/-- The value of a setting's variable; the last of equal names stands. -/
def variableOf? (table : EnvFile.Variables) (s : Setting) : Option ConfigValue :=
  (table.reverse.find? fun (name, _) => isNamed (variablePrefix ++ s.name) name).bind
    fun (_, v) => v.map .text

/-- The first value that any of the places gives. -/
def get? (p : SettingSources) (s : Setting) : Option ConfigValue :=
  (p.given.find? fun (name, _) => isNamed s.name name).map (·.2) <|>
    variableOf? (p.environment.map fun (name, v) => (name, some v)) s <|> p.file.lookup s <|>
    variableOf? p.fileVariables s

end SettingSources

namespace Settings

def levelNames : List String := ["DEBUG", "INFO", "WARNING", "ERROR", "CRITICAL"]

def formatNames : List String := ["json", "text"]

/-- Reads a setting; what is given nowhere has its default. -/
def readField {α : Type} (p : SettingSources) (s : Setting) (default : α)
    (read : ConfigValue → Except SettingFault α) : Except (Setting × SettingFault) α :=
  match p.get? s with
  | none => .ok default
  | some v => (read v).mapError (s, ·)

def faultOf {α : Type} (r : Except (Setting × SettingFault) α) : List (Setting × SettingFault) :=
  match r with
  | .ok _ => []
  | .error f => [f]

/-- Reads all settings and names all that cannot be. An output without a home ends the reading. -/
def read (homes : Path.Homes) (p : SettingSources) : Except SettingsFault Settings :=
  let target := readField p .target none (ConfigValue.asOptional ConfigValue.asText)
  let output := readField p .output "metrics.db" ConfigValue.asPath
  let interval := readField p .interval (.ofInt 5) ConfigValue.asPositive
  let timeout := readField p .timeout none (ConfigValue.asOptional ConfigValue.asPositive)
  let capacity := readField p .capacity 5 (ConfigValue.asAtLeast 1)
  let job := readField p .job none (ConfigValue.asOptional ConfigValue.asText)
  let inst := readField p .instance none (ConfigValue.asOptional ConfigValue.asText)
  let enabled := readField p .statusEnabled false ConfigValue.asFlag
  let host := readField p .statusHost "127.0.0.1" ConfigValue.asText
  let port := readField p .statusPort 8080 (ConfigValue.asBetween 1 65535)
  let level := readField p .logLevel "INFO" (ConfigValue.asOneOf levelNames)
  let format := readField p .logFormat "text" (ConfigValue.asOneOf formatNames)
  let faults := faultOf target ++ faultOf output ++ faultOf interval ++ faultOf timeout ++
    faultOf capacity ++ faultOf job ++ faultOf inst ++ faultOf enabled ++ faultOf host ++
    faultOf port ++ faultOf level ++ faultOf format
  let path := output.toOption.map fun o => (Path.ofText o).expandHome? homes
  match path with
  | some none => .error .homeUnknown
  | _ =>
    let settings : Except (Setting × SettingFault) Settings := do
      return ⟨← target, (path.bind id).getD (Path.ofText ""), ← interval, ← timeout, ← capacity,
        ← job, ← inst, ← enabled, ← host, ← port, ← level, ← format⟩
    match settings, faults with
    | .ok s, [] => .ok s
    | _, faults => .error (.invalid faults)

def fields (s : Settings) : List (String × Field) :=
  let text := fun (o : Option String) => o.elim Field.none .text
  [("target", text s.target), ("output", .text s.output.text),
    ("scrape_interval_seconds", .amount s.interval),
    ("scrape_timeout_seconds", s.timeout.elim .none .amount),
    ("buffer_capacity", .count s.capacity), ("job", text s.job), ("instance", text s.instance),
    ("status_enabled", .flag s.statusEnabled), ("status_host", .text s.statusHost),
    ("status_port", .count s.statusPort), ("log_level", .text s.logLevel),
    ("log_format", .text s.logFormat)]

end Settings

end MetricArchive
