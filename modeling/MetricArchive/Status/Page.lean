import MetricArchive.Status.Totals
import MetricArchive.Url.Http

/-!
# Status pages

Four paths can be asked for with GET: whether the process lives, whether scrapes are collected, the
totals by name, and the totals as an exposition. A path with slashes at its end leads to the same
path without them. What is asked for is an address, of which only the path matters.
-/
namespace MetricArchive

inductive PageBody where
  | nothing
  | text (s : String)
  /-- Values by name. -/
  | fields (l : List (String × Field))
  deriving DecidableEq, Repr

structure Page where
  code : Nat
  type : String
  body : PageBody
  deriving DecidableEq, Repr

inductive Route where
  | healthy
  | ready
  | stats
  | metrics
  deriving DecidableEq, Repr

namespace Route

def path : Route → String
  | .healthy => "/-/healthy"
  | .ready => "/-/ready"
  | .stats => "/-/stats"
  | .metrics => "/metrics"

def all : List Route := [.healthy, .ready, .stats, .metrics]

/-- The route of a path; a line feed at its end makes no difference. -/
def ofPath? (path : List Char) : Option Route :=
  all.find? fun r => path == r.path.toList || path == r.path.toList ++ ['\n']

end Route

namespace Page

def version : String := "0.1.0"

def plain (code : Nat) (text : String) : Page := ⟨code, "text/plain; charset=utf-8", .text text⟩

def json (code : Nat) (fields : List (String × Field)) : Page :=
  ⟨code, "application/json", .fields fields⟩

def refused (code : Nat) (detail : String) : Page := json code [("detail", .text detail)]

def redirect : Page := ⟨307, "", .nothing⟩

/-- The totals by name, with the time at which they were read. -/
def stats (s : Status) (now : Moment) : List (String × Field) :=
  [("timestamp", .text now.isoZulu), ("version", .text version), ("source", .text s.source),
    ("running", .flag s.running), ("buffer_depth", .count s.depth),
    ("buffer_capacity", .count s.capacity)] ++
    s.summary.counts.map (fun (k, n) => (k, .count n)) ++
    [("duration_seconds", .amount s.summary.duration.value)]

def serve (s : Status) (now : Moment) : Route → Page
  | .healthy => plain 200 "OK"
  | .ready => if s.initialized && s.running then plain 200 "OK" else plain 503 "Not ready"
  | .stats => json 200 (stats s now)
  | .metrics => ⟨200, "text/plain; version=1.0.0; charset=utf-8",
      .text (String.ofList (Exposition.render s.families))⟩

/-- Why an address cannot be asked for. -/
inductive AddressFault where
  | url (f : UrlFault)
  | hostName (f : Url.NameFault)
  deriving DecidableEq, Repr

def AddressFault.message : AddressFault → String
  | .url f => f.message
  | .hostName f => f.message

def dropSlashes (path : List Char) : List Char := (path.reverse.dropWhile (· == '/')).reverse

def ofPath (s : Status) (now : Moment) (isGet : Bool) (path : List Char) : Page :=
  match Route.ofPath? path with
  | some route => if isGet then serve s now route else refused 405 "Method Not Allowed"
  | none =>
    if path.getLast? == some '/' && (Route.ofPath? (dropSlashes path)).isSome then redirect
    else refused 404 "Not Found"

/-- The page for a method in letters of either case and an address. HEAD asks for a page without its
body. -/
def answer (s : Status) (now : Moment) (method address : String) : Except AddressFault Page := do
  let u ← (HttpUrl.read address).mapError .url
  if !u.scheme.isEmpty then
    let _ ← (u.hostName).mapError AddressFault.hostName
  let method := String.ofList (Text.upperCase method.toList)
  let page := ofPath s now (method == "GET") u.sitePath
  if method == "HEAD" then return { page with body := .nothing } else return page

end Page

end MetricArchive
