import MetricArchive.Pipeline.Basic

/-!
# Running a pipeline

A schedule is an order of preference among turns: each time the first possible one is taken, until
none is. Asking to stop is not part of a schedule, because it is always possible.
-/
namespace MetricArchive.Pipeline

/-- For a source that never waits: the consumer begins when everything is in the buffer. -/
def sourceFirst : List Turn := [.attempt, .put, .close, .begin, .take, .giveUp, .write]

/-- For a source that is read once: the consumer is there when the scrape comes. -/
def consumerFirst : List Turn := [.begin, .attempt, .put, .close, .take, .giveUp, .write]

/-- For a source that is much faster than the store: the consumer has the first scrape and is busy
with it until the source ends. -/
def writerSlow : List Turn := [.begin, .take, .attempt, .put, .close, .giveUp, .write]

/-- At most so many turns in an order of preference. -/
def turns (d : Disruption) (order : List Turn) : Nat → Pipeline → Pipeline
  | 0, p => p
  | n + 1, p =>
    match order.findSome? (p.next d) with
    | none => p
    | some p => turns d order n p

/-- Turns that a run needs at most: four for each attempt, and for the start and the end. -/
def turnBound (p : Pipeline) : Nat := 4 * p.ahead.length + 8

def start (p : Pipeline) (now : Moment) : Pipeline :=
  { p with started := some now, finished := none }.report
    [.pipelineStarted p.name p.buffer.capacity]

/-- Ends the run; only a complete run reports its totals. -/
def finish (p : Pipeline) (now : Moment) : Pipeline :=
  let ended := { p with finished := some now }
  if p.isComplete then
    { ended with log := p.log ++
        [⟨.pipelineFinished p.name (ended.summary now), some p.name⟩] }
  else ended

/-- A whole run between two readings of the clock. -/
def run (d : Disruption) (order : List Turn) (started finished : Moment) (p : Pipeline) :
    Pipeline :=
  (turns d order p.turnBound (p.start started)).finish finished

end MetricArchive.Pipeline
