import MetricArchive.Command.Basic
import MetricArchive.Command.Options
import MetricArchive.Pipeline.Run
import MetricArchive.Report.Duration
import MetricArchive.Report.Object

/-!
# The command that scrapes

A target is scraped into a store. What no option says is taken from the settings. An address is
fetched until something stops it, anything else is read once; then a summary is shown, and whether
all scrapes reached the store.
-/
namespace MetricArchive

structure Host where
  homes : Path.Homes
  environment : List (String × String)
  /-- The configuration file that is read if no other is named. -/
  config : Option String
  input : ByteStream
  fetch : Nat → FetchResult
  /-- Successive readings of the clock by the source. -/
  sourceClock : Nat → Moment
  started : Moment
  finished : Moment
  /-- Ticks of a source that has no limit until someone stops it. -/
  patience : Nat

namespace Job

def stream (h : Host) (p : Progress) (o : OneShot) : ByteStream :=
  match p.workspace.read? (Path.ofText o.name) p.machine with
  | some content => if o.closesStream then ⟨.ok content.bytes, false⟩ else h.input
  | none => h.input

/-- What the attempts of the source will come to, and how it takes turns with the writer. -/
def plan (h : Host) (p : Progress) : Source → List Attempt × List Turn
  | .oneShot o => ((o.scrape false (h.sourceClock 0) (stream h p o)).1, Pipeline.consumerFirst)
  | .periodic p =>
    (p.attemptsFrom h.sourceClock h.fetch (p.tickCount h.patience) 0, Pipeline.writerSlow)

/-- The address that a source asks for, once for each attempt. -/
def asked (s : Source) (attempts : Nat) : List String :=
  match s with
  | .oneShot _ => []
  | .periodic p =>
    match p.address with
    | .ok u => List.replicate attempts u.requested
    | .error _ => []

/-- Runs a pipeline to its end and keeps the store. -/
def run (h : Host) (j : Job) : Command Summary := do
  let before ← get
  match ← Command.openStore h.homes j.output with
  | .error f =>
    match f.problem? with
    | some p => Command.refuse p
    | none => Command.breakOff (.store f)
  | .ok kept =>
    match Buffer.new? j.capacity with
    | none => Command.breakOff (.capacity j.capacity)
    | some buffer =>
      let (attempts, order) := plan h before j.source
      let disruption := if kept.lasts then .none else .after 0 .operational
      let ended := (Pipeline.new j.source.name attempts buffer .new kept.store).run disruption order
        h.started h.finished
      Command.logEntries ended.log
      modify fun p => { p with
        workspace := KeptStore.save { kept with store := ended.store } p.workspace
        requests := asked j.source ended.source.attempted }
      match ended.sourceFailure?, ended.writerFailure? with
      | some f, _ => Command.breakOff (.source f)
      | none, some f => Command.breakOff (.writer f)
      | none, none => return ended.summary h.finished

end Job

namespace ScrapeOptions

def nonEmpty (s : Option String) : Option String := s.filter fun t => !t.isEmpty

def noTarget : Problem :=
  .configuration "No scrape target given (argument or PROMSTASH_TARGET)" []

def targetOptions (o : ScrapeOptions) (s : Settings) : Target.Options :=
  ⟨.fraction (o.interval.getD s.interval), (o.timeout <|> s.timeout).map .fraction,
    o.job <|> s.job, o.instance <|> s.instance, o.count⟩

/-- The pipeline for a source. Only a source that is fetched again and again is listened for. -/
def jobFor (o : ScrapeOptions) (s : Settings) (source : Source) : Job :=
  let repeated := match source with
    | .oneShot _ => false
    | .periodic _ => true
  ⟨source, o.output.elim s.output Path.ofText, o.capacity.getD s.capacity,
    o.listen.getD s.statusEnabled && repeated, (nonEmpty o.host).getD s.statusHost,
    o.port.getD s.statusPort⟩

def announcement (j : Job) : List String :=
  let pace := match j.source with
    | .oneShot _ => []
    | .periodic p => [s!"   Interval: {p.interval.text}s, Buffer: {j.capacity}"]
  let status := if j.listen then [s!"   Status: http://{j.host}:{j.port}/-/stats"] else []
  [s!"Scraping {j.source.name}", s!"   Output: {j.output.text}"] ++ pace ++ status

/-- The totals as a table; losses have rows only if there are any. -/
def summaryTable (s : Summary) (duration : String) : Report.Table where
  title := "Scrape Summary"
  header := none
  alignments := [.left, .left]
  sections :=
    let dropped := if 0 < s.dropped then [["Scrapes Dropped", s!"⚠️  {s.dropped}"]] else []
    let lost := grouped s.samplesLost
    let failures := if 0 < s.writeFailed then
      [["Write Failures", s!"⚠️  {s.writeFailed} ({lost} samples lost)"]] else []
    [[["Duration", duration],
      ["Scrapes Attempted", grouped s.attempted], ["Scrapes Succeeded", grouped s.succeeded],
      ["Scrapes Failed", grouped s.failed], ["Scrapes Written", grouped s.written],
      ["Samples Written", grouped s.samplesWritten]] ++ dropped ++ failures]

def isOneShot : Source → Bool
  | .oneShot _ => true
  | .periodic _ => false

/-- Shows the totals and whether anything was lost. -/
def conclude (g : GlobalOptions) (j : Job) (s : Summary) : Command Unit := do
  if g.format == GlobalOptions.jsonFormat then Command.printLines (Report.objectLines s.fields)
  else if !g.quiet then
    match Report.durationText s.duration with
    | .error f => Command.breakOff (.duration f)
    | .ok duration => Command.printTable (summaryTable s duration)
  if s.written = 0 && isOneShot j.source then
    Command.printError "[red]✗[/red] Nothing was stored"
    Command.leave Command.failureCode
  if s.hasLosses then
    Command.print "[yellow]⚠[/yellow] Some scrapes were not stored; see the log for details"
  else if !g.quiet then Command.print "[green]✓[/green] Scrape completed"

/-- Goes on with the source that was found at a target. -/
def sourceAt (target : String) : Except TargetFault Source → Command (String × Source)
  | .error (.problem p) => Command.refuse p
  | .error f => Command.breakOff (.target f)
  | .ok source => return (target, source)

/-- The source of the target that an option or else a setting names, and that target. -/
def sourceOf (s : Settings) (o : ScrapeOptions) : Command (String × Source) := do
  match nonEmpty o.target <|> nonEmpty s.target with
  | none => Command.refuse noTarget
  | some target =>
    let p ← get
    sourceAt target (Target.source p.workspace target (o.targetOptions s) p.machine)

/-- Announces a pipeline unless quiet and runs it. -/
def carryOut (execute : Job → Command Summary) (quiet : Bool) (j : Job) : Command Summary := do
  if !quiet then (announcement j).forM Command.printInfo
  modify fun p => { p with job := some j }
  execute j

/-- Scrapes as the options and settings say; `execute` runs the pipeline. -/
def run (execute : Job → Command Summary) (g : GlobalOptions) (s : Settings) (o : ScrapeOptions) :
    Command Unit := do
  let (target, j, summary) ← Command.showingProblems g.verbose do
    let (target, source) ← sourceOf s o
    let j := o.jobFor s source
    return (target, j, ← carryOut execute g.quiet j)
  conclude g j summary
  Command.logEvents [.commandFinished target j.output.text]

end ScrapeOptions

end MetricArchive
