/-!
# A bounded buffer that drops the oldest

Putting never waits: a full buffer drops its oldest item to make room. Nothing can be put into a
closed buffer; what it still holds can be taken, and then it is finished. Who waits for an item is
kept elsewhere.
-/
namespace MetricArchive

structure BufferMetrics where
  pushed : Nat
  popped : Nat
  dropped : Nat
  maxDepth : Nat
  deriving DecidableEq, Repr

/-- The queue holds the oldest item first. -/
structure Buffer (α : Type) where
  capacity : Nat
  queue : List α
  closed : Bool
  metrics : BufferMetrics
  deriving DecidableEq, Repr

/-- What taking from a buffer gives: an item, the end, or nothing yet. -/
inductive Delivery (α : Type) where
  | item (a : α)
  | finished
  | nothingYet
  deriving DecidableEq, Repr

namespace Buffer

variable {α : Type}

/-- An empty buffer; a capacity below one is refused. -/
def new? (capacity : Int) : Option (Buffer α) :=
  if capacity < 1 then none else some ⟨capacity.toNat, [], false, ⟨0, 0, 0, 0⟩⟩

def capacityMessage (capacity : Int) : String :=
  s!"Buffer capacity must be at least 1, got {capacity}"

def depth (b : Buffer α) : Nat := b.queue.length

/-- Makes room for one item; gives the item that was dropped for it. -/
def makeRoom (b : Buffer α) : Option α × Buffer α :=
  match b.queue with
  | [] => (none, b)
  | oldest :: rest =>
    if b.capacity ≤ b.depth then
      (some oldest,
        { b with queue := rest, metrics := { b.metrics with dropped := b.metrics.dropped + 1 } })
    else (none, b)

/-- Puts an item at the end and gives the item dropped for it; a closed buffer refuses. -/
def put (b : Buffer α) (a : α) : Option (Option α × Buffer α) :=
  if b.closed then none
  else
    let (dropped, b) := b.makeRoom
    let queue := b.queue ++ [a]
    some (dropped,
      { b with
        queue := queue
        metrics := { b.metrics with
          pushed := b.metrics.pushed + 1
          maxDepth := max b.metrics.maxDepth queue.length } })

def take (b : Buffer α) : Delivery α × Buffer α :=
  match b.queue with
  | [] => (if b.closed then .finished else .nothingYet, b)
  | oldest :: rest =>
    (.item oldest,
      { b with queue := rest, metrics := { b.metrics with popped := b.metrics.popped + 1 } })

def close (b : Buffer α) : Buffer α := { b with closed := true }

end Buffer

end MetricArchive
