import MetricArchive.Source.Redirect
import MetricArchive.Source.Seconds

/-!
# Sources that are fetched at intervals

A tick fetches the payload once. The next tick is due one interval after the previous one was due;
if that moment has passed already, it starts at once and the schedule continues from there, so ticks
that were missed are not made up for. A tick that fails costs only itself. The time a tick takes
ends when whoever receives its scrape has dealt with it.

Time is any type with addition, subtraction and an order, so the same definition runs on floating-
point numbers and can be reasoned about on rationals.
-/
namespace MetricArchive

inductive FetchResult where
  | reply (r : Reply)
  /-- A reply whose headers cannot be sent. -/
  | unsendable (f : HeaderFault)
  | timeout
  /-- A failure of the transport, with the name of its kind. -/
  | transport (kind text : String)
  /-- A failure that is no failure of fetching. -/
  | unexpected (kind text : String)
  deriving DecidableEq, Repr

structure Periodic where
  url : String
  constants : Labels
  interval : Seconds
  timeout : Seconds
  /-- The number of ticks after which the source ends; the first tick is always made. -/
  limit : Option Int
  deriving DecidableEq, Repr

namespace Periodic

def intervalMessage (interval : Seconds) : String :=
  s!"Scrape interval must be positive, got {interval.text}"

/-- A source with a positive interval; without a timeout, or with a timeout of zero, a fetch may
take the whole interval. -/
def new? (url : String) (constants : Labels) (interval : Seconds) (timeout : Option Seconds)
    (limit : Option Int) : Option Periodic :=
  if interval.isPositive then
    some ⟨url, constants, interval, (timeout.filter (!·.isZero)).getD interval, limit⟩
  else none

/-- What a source that makes its own connections says it accepts. -/
def acceptHeader : String := "text/plain;version=0.0.4;q=1,*/*;q=0.1"

def address (p : Periodic) : Except SourceFailure HttpUrl := do
  let u ← (HttpUrl.read p.url).mapError .address
  u.merged.checkHost
  return u.merged

def isReachable (p : Periodic) : Bool :=
  match p.address with
  | .ok _ => true
  | .error _ => false

/-- What a tick comes to whose fetch was answered. Where the reply sends to is looked at before its
body. A reply that sends elsewhere, or that has no success to report, is a failed fetch. -/
def received (p : Periodic) (now : Moment) (asked : HttpUrl) (r : Reply) : Attempt :=
  let failed := fun reason status => ⟨.ok none, [.fetchFailed p.url now reason status]⟩
  match r.redirectFault? asked with
  | some (.notAddress f) => failed s!"Invalid URL in location header: {f.message}." none
  | some (.deadEnd f) => ⟨.error f, []⟩
  | none =>
    match r.content with
    | .error f => failed f.message none
    | .ok content =>
      if r.isSuccess then .ofReading p.url now (Exposition.readBytes p.constants content)
      else failed s!"HTTP {r.status}" (some r.status)

/-- What a tick comes to that started at a given moment. -/
def attempt (p : Periodic) (now : Moment) (fetched : FetchResult) : Attempt :=
  let failed := fun reason => ⟨.ok none, [.fetchFailed p.url now reason none]⟩
  match p.address with
  | .error f => ⟨.error f, []⟩
  | .ok asked =>
    match fetched with
    | .reply r => p.received now asked r
    | .unsendable f => ⟨.error (.headers f), []⟩
    | .timeout => failed s!"timed out after {p.timeout.text}s"
    | .transport kind text => failed (if text.isEmpty then kind else text)
    | .unexpected kind text => ⟨.error (.unexpected kind text), []⟩

/-- What the ticks come to, from the `k`-th on, when only what they fetch and the clock's readings
matter: a failure of the source ends them, and so does the count. -/
def attemptsFrom (p : Periodic) (clock : Nat → Moment) (fetch : Nat → FetchResult) :
    (count k : Nat) → List Attempt
  | 0, _ => []
  | count + 1, k =>
    let a := p.attempt (clock k) (fetch k)
    a :: if a.failure?.isSome then [] else attemptsFrom p clock fetch count (k + 1)

/-- The number of ticks that a source makes if nothing stops it; without a limit, a given number. -/
def tickCount (p : Periodic) (unlimited : Nat) : Nat :=
  p.limit.elim unlimited fun n => max 1 n.toNat

end Periodic

variable {τ : Type}

/-- When a source is told to stop: at a time, or after a number of scrapes. -/
structure StopRule (τ : Type) where
  time : Option τ
  scrapes : Option Nat

/-- What goes on around a source: how long each fetch takes and what it comes to, how long whoever
receives the scrape of a tick takes, when the source is told to stop, and what the clock shows. -/
structure Surroundings (τ : Type) where
  fetch : Nat → τ × FetchResult
  handling : Nat → τ
  stop : StopRule τ
  clock : τ → Moment

/-- A tick: when it started, what it came to, and how far the schedule had been missed after it. -/
structure Tick (τ : Type) where
  start : τ
  attempt : Attempt
  behind : Option τ

/-- What a tick reported, if `shown` says how a time is shown in seconds. -/
def Tick.events (shown : τ → Binary64) (url : String) (t : Tick τ) : List Event :=
  t.attempt.events ++ t.behind.elim [] fun b => [.scrapeOverrun url (shown b)]

/-- The ticks of a source, the scrapes that it handed over, in order, and when it ended. -/
structure TickRun (τ : Type) where
  ticks : List (Tick τ)
  scrapes : List Scrape
  finish : τ

variable [LT τ] [DecidableLT τ]

/-- Whether the rule has taken effect when so many scrapes have been handed over. -/
def StopRule.isSet (r : StopRule τ) (scrapes : Nat) (now : τ) : Bool :=
  r.time.any (fun t => !decide (now < t)) || (0 < scrapes && r.scrapes.any (· ≤ scrapes))

/-- When the rule takes effect between two times, if it does; at the later one it counts. -/
def StopRule.within? (r : StopRule τ) (scrapes : Nat) (now due : τ) : Option τ :=
  if r.isSet scrapes now then some now else r.time.filter fun t => !decide (due < t)

variable [Add τ] [Sub τ]

/-- The ticks from the `k`-th on, at most as many as the first argument says. `due` is when the
tick was due and `now` when it starts. The scrape of a tick is handed over before anyone asks
whether there is to be another one. -/
def Periodic.ticksFrom (p : Periodic) (interval : τ) (w : Surroundings τ) :
    (count k scrapes : Nat) → (now due : τ) → TickRun τ
  | 0, _, _, now, _ => ⟨[], [], now⟩
  | count + 1, k, scrapes, now, due =>
    if w.stop.isSet scrapes now then ⟨[], [], now⟩
    else
      let attempt := p.attempt (w.clock now) (w.fetch k).2
      let handed := attempt.scrape?.toList
      let answered := if p.isReachable then now + (w.fetch k).1 else now
      let received := attempt.scrape?.isSome
      let ready := if received then answered + w.handling k else answered
      let scrapes := if received then scrapes + 1 else scrapes
      if attempt.failure?.isSome || p.limit.any (· ≤ (k + 1 : Int)) then
        ⟨[⟨now, attempt, none⟩], handed, ready⟩
      else
        let due := due + interval
        let behind := if due < ready then some (ready - due) else none
        let due := if due < ready then ready else due
        let tick := ⟨now, attempt, behind⟩
        match w.stop.within? scrapes ready due with
        | some stopped => ⟨[tick], handed, stopped⟩
        | none =>
          let rest := p.ticksFrom interval w count (k + 1) scrapes (ready + (due - ready)) due
          ⟨tick :: rest.ticks, handed ++ rest.scrapes, rest.finish⟩

namespace TickRun

omit [LT τ] [DecidableLT τ] [Add τ] [Sub τ]

def attempts (r : TickRun τ) : List Attempt := r.ticks.map (·.attempt)

/-- The addresses asked for, each with the time of the request. -/
def requests (r : TickRun τ) (p : Periodic) : List (τ × String) :=
  match p.address with
  | .ok u => r.ticks.map fun t => (t.start, u.requested)
  | .error _ => []

/-- What ended the run, if it did not end by itself. -/
def failure? (r : TickRun τ) : Option SourceFailure :=
  r.attempts.getLast?.bind (·.failure?)

/-- What the ticks reported; how far the schedule was missed is shown in milliseconds. -/
def events (r : TickRun Binary64) (url : String) : List Event :=
  r.ticks.flatMap (Tick.events (·.roundPlaces 3) url)

end TickRun

end MetricArchive
