import MetricArchive.Command.Arguments
import MetricArchive.Config.Reading

/-!
# Options of the commands

Options that hold for all commands stand before the command's name, those of scraping after it.
Numbers are written as in a setting; those out of their range are refused.
-/
namespace MetricArchive

structure GlobalOptions where
  version : Bool
  config : Option String
  format : String
  verbose : Bool
  quiet : Bool
  deriving DecidableEq, Repr

namespace GlobalOptions

def forms : List OptionForm :=
  [⟨"version", ["--version"], ['V'], false⟩, ⟨"config", ["--config"], ['c'], true⟩,
    ⟨"output", ["--output"], ['o'], true⟩, ⟨"verbose", ["--verbose"], ['v'], false⟩,
    ⟨"quiet", ["--quiet"], ['q'], false⟩]

def tableFormat : String := "table"

def jsonFormat : String := "json"

/-- The options, and the name and arguments of the command. -/
def read (args : List String) : Option (GlobalOptions × List String) :=
  (Arguments.read forms false args).map fun a =>
    (⟨a.has "version", a.value? "config", (a.value? "output").getD tableFormat, a.has "verbose",
      a.has "quiet"⟩, a.operands)

end GlobalOptions

structure ScrapeOptions where
  target : Option String
  output : Option String
  interval : Option Binary64
  capacity : Option Int
  job : Option String
  «instance» : Option String
  timeout : Option Binary64
  count : Option Int
  listen : Option Bool
  host : Option String
  port : Option Int
  deriving DecidableEq, Repr

namespace ScrapeOptions

def forms : List OptionForm :=
  [⟨"interval", ["--interval"], ['i'], true⟩, ⟨"buffer", ["--buffer"], ['b'], true⟩,
    ⟨"job", ["--job"], [], true⟩, ⟨"instance", ["--instance"], [], true⟩,
    ⟨"timeout", ["--timeout"], ['t'], true⟩, ⟨"count", ["--count"], ['n'], true⟩,
    ⟨"listen", ["--listen"], [], false⟩, ⟨"silent", ["--no-listen"], [], false⟩,
    ⟨"host", ["--host"], [], true⟩, ⟨"port", ["--port"], ['p'], true⟩]

/-- The shortest interval and timeout: a hundredth of a second. -/
def leastSeconds : Binary64 := .ofDecimal false 1 (-2)

def secondsOf? (s : String) : Option Binary64 :=
  (ConfigValue.text s).asNumber.toOption.filter fun x => !x.isNaN && !decide (x < leastSeconds)

def wholeFrom? (least : Int) (greatest : Option Int) (s : String) : Option Int :=
  (ConfigValue.text s).asWhole.toOption.filter fun n => least ≤ n && greatest.all (n ≤ ·)

/-- Reads the value of an option that may be missing; fails if it is there and is not one. -/
def optional {α : Type} (a : Arguments) (key : String) (read : String → Option α) :
    Option (Option α) :=
  match a.value? key with
  | none => some none
  | some s => (read s).map some

def listenSwitch (a : Arguments) : Option Bool :=
  (a.options.reverse.find? fun (key, _) => key == "listen" || key == "silent").map
    fun (key, _) => key == "listen"

def read (args : List String) : Option ScrapeOptions := do
  let a ← Arguments.read forms true args
  if 2 < a.operands.length then none
  else
    let interval ← optional a "interval" secondsOf?
    let capacity ← optional a "buffer" (wholeFrom? 1 none)
    let timeout ← optional a "timeout" secondsOf?
    let count ← optional a "count" (wholeFrom? 1 none)
    let port ← optional a "port" (wholeFrom? 1 (some 65535))
    return ⟨a.operands[0]?, a.operands[1]?, interval, capacity, a.value? "job",
      a.value? "instance", timeout, count, listenSwitch a, a.value? "host", port⟩

end ScrapeOptions

end MetricArchive
