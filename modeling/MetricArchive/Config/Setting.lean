import MetricArchive.Yaml.Value

/-!
# Settings by name

Each setting has a name, and a place in the configuration file: a section and a key there.
-/
namespace MetricArchive

inductive Setting where
  | target
  | output
  | interval
  | timeout
  | capacity
  | job
  | «instance»
  | statusEnabled
  | statusHost
  | statusPort
  | logLevel
  | logFormat
  deriving DecidableEq, Repr

namespace Setting

def name : Setting → String
  | target => "target"
  | output => "output"
  | interval => "scrape_interval_seconds"
  | timeout => "scrape_timeout_seconds"
  | capacity => "buffer_capacity"
  | job => "job"
  | «instance» => "instance"
  | statusEnabled => "status_enabled"
  | statusHost => "status_host"
  | statusPort => "status_port"
  | logLevel => "log_level"
  | logFormat => "log_format"

/-- The sections of the configuration file with their keys. -/
def layout : List (String × List (String × Setting)) :=
  [("scrape", [("target", target), ("interval_seconds", interval), ("timeout_seconds", timeout),
      ("job", job), ("instance", «instance»), ("buffer_capacity", capacity)]),
    ("storage", [("output", output)]),
    ("status", [("enabled", statusEnabled), ("host", statusHost), ("port", statusPort)]),
    ("logging", [("level", logLevel), ("format", logFormat)])]

end Setting

abbrev SettingValues := List (Setting × ConfigValue)

/-- What a configuration file comes to. A file that is not well formed counts as empty, with a
warning. -/
structure ConfigFile where
  values : SettingValues
  warned : Bool
  deriving Repr

inductive ConfigFault where
  | notMapping (kind : String)
  | value (f : Yaml.Fault)
  deriving DecidableEq, Repr

def ConfigFault.message : ConfigFault → String
  | .notMapping kind => s!"'{kind}' object has no attribute 'get'"
  | .value f => f.message

namespace ConfigFile

def empty : ConfigFile := ⟨[], false⟩

/-- The settings of one section; a section that is no mapping is passed over. -/
def ofSection (vs : Yaml.Values) (part : String × List (String × Setting)) : SettingValues :=
  match vs.entry? vs.root part.1 with
  | some node =>
    part.2.filterMap fun (key, setting) => (vs.entry? node key).map (setting, vs.value ·)
  | none => []

def unifyBreaks : List Char → List Char
  | '\r' :: '\n' :: rest => '\n' :: unifyBreaks rest
  | '\r' :: rest => '\n' :: unifyBreaks rest
  | c :: rest => c :: unifyBreaks rest
  | [] => []

def ofValues (vs : Yaml.Values) : Except ConfigFault ConfigFile :=
  let root := vs.value vs.root
  if vs.isMapping vs.root then .ok ⟨Setting.layout.flatMap (ofSection vs), false⟩
  else if root.isVoid then .ok empty
  else .error (.notMapping root.kindName)

def read (text : String) : Except ConfigFault ConfigFile :=
  match Yaml.read (unifyBreaks text.toList) with
  | .error .malformed => .ok ⟨[], true⟩
  | .error f => .error (.value f)
  | .ok vs => vs.elim (.ok empty) ofValues

end ConfigFile

end MetricArchive
