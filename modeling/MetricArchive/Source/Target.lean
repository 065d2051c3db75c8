import MetricArchive.Path.Workspace
import MetricArchive.Problem
import MetricArchive.Source.OneShot
import MetricArchive.Source.Periodic

/-!
# Targets

A target names what is scraped: an HTTP address is fetched at intervals, a hyphen is the standard
input, and anything else is the path of a file. The labels that every sample gets come from the job,
if one is given, and the instance, which for an address is its host and port unless another is given.
-/
namespace MetricArchive

inductive Source where
  | oneShot (o : OneShot)
  | periodic (p : Periodic)
  deriving DecidableEq, Repr

def Source.name : Source → String
  | .oneShot o => o.name
  | .periodic p => p.url

/-- Why a target becomes no source. Only a problem is expected by those who ask. -/
inductive TargetFault where
  | problem (p : Problem)
  | address (f : UrlFault)
  | hostName (f : Url.NameFault)
  | interval (interval : Seconds)
  | overlongPath (p : Path)
  | closedPath (p : Path)
  deriving DecidableEq, Repr

def TargetFault.message : TargetFault → String
  | .problem p => p.message
  | .address f => f.message
  | .hostName f => f.message
  | .interval i => Periodic.intervalMessage i
  | .overlongPath p => Workspace.overlongMessage p
  | .closedPath p => Workspace.closedMessage p

namespace Target

def isUrl (target : String) : Bool := target.startsWith "http://" || target.startsWith "https://"

/-- Host and port of an address; a port of zero counts as none. -/
def defaultInstance (u : HttpUrl) : Except Url.NameFault String :=
  u.hostName.map fun host =>
    let implied : Int := if u.scheme == "https" then 443 else 80
    s!"{host}:{(u.port.filter (· != 0)).getD implied}"

/-- The instance label: the given one, else that of the address. -/
def instanceLabel (target : String) (given : Option String) :
    Except TargetFault (Option String) :=
  match given with
  | some i => .ok (some i)
  | none =>
    if isUrl target then
      match HttpUrl.read target with
      | .error f => .error (.address f)
      | .ok u =>
        match defaultInstance u with
        | .error f => .error (.hostName f)
        | .ok i => .ok (some i)
    else .ok none

/-- A label unless its value is missing or empty. -/
def optionalLabel (name : String) (value : Option String) : Labels :=
  match value with
  | some v => if v.isEmpty then [] else [(name, v)]
  | none => []

def constantLabels (target : String) (job «instance» : Option String) : Except TargetFault Labels :=
  (instanceLabel target «instance»).map fun i =>
    optionalLabel "instance" i ++ optionalLabel "job" job

structure Options where
  interval : Seconds
  timeout : Option Seconds
  job : Option String
  «instance» : Option String
  limit : Option Int

def defaultInterval : Seconds := .fraction (.ofInt 5)

def invalidUrl (target : String) : Problem :=
  .configuration s!"Invalid target URL: {target}" [("target", .text target)]

def unreadable (target : String) : Problem :=
  .configuration s!"Target is neither a URL nor a readable file: {target}"
    [("target", .text target)]

def unopenable (target : String) (p : Path) : Problem :=
  .configuration s!"Cannot open target {target}: {Workspace.closedMessage p}"
    [("target", .text target)]

def periodic (target : String) (constants : Labels) (s : Options) : Except TargetFault Source :=
  match HttpUrl.read target with
  | .error _ => .error (.problem (invalidUrl target))
  | .ok _ =>
    match Periodic.new? target constants s.interval s.timeout s.limit with
    | none => .error (.interval s.interval)
    | some p => .ok (.periodic p)

/-- The source of a file, which must exist and be open to read. -/
def file {α : Type} (w : Workspace α) (target : String) (constants : Labels) (m : Machine α) :
    Except TargetFault Source :=
  let path := Path.ofText target
  match w.locate path m with
  | .overlong => .error (.overlongPath path)
  | .closed => .error (.closedPath path)
  | _ =>
    match w.find? path m with
    | some (.file _) =>
      if (w.read? path m).isSome then .ok (.oneShot ⟨path.text, constants, true⟩)
      else .error (.problem (unopenable target path))
    | _ => .error (.problem (unreadable target))

def source {α : Type} (w : Workspace α) (target : String) (s : Options)
    (m : Machine α := .unknown) : Except TargetFault Source :=
  (constantLabels target s.job s.instance).bind fun constants =>
    if isUrl target then periodic target constants s
    else if target == "-" then .ok (.oneShot ⟨"-", constants, false⟩)
    else file w target constants m

end Target

end MetricArchive
