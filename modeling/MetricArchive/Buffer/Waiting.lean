import MetricArchive.Buffer.Basic

/-!
# Waiting at a buffer

Getters that found nothing wait in line. A put wakes the first in line that is still asleep and a
close wakes all; a woken getter looks again when its turn to run comes, and goes back to the end of
the line if another was faster. `settle` lets every woken getter run.
-/
namespace MetricArchive

structure Waiter where
  id : Nat
  woken : Bool
  deriving DecidableEq, Repr

structure WaitingRoom (α : Type) where
  buffer : Buffer α
  line : List Waiter
  deriving DecidableEq, Repr

namespace WaitingRoom

variable {α : Type}

def wakeFirst : List Waiter → List Waiter
  | [] => []
  | w :: rest => if w.woken then w :: wakeFirst rest else { w with woken := true } :: rest

def wakeAll (line : List Waiter) : List Waiter := line.map fun w => { w with woken := true }

/-- Puts an item and wakes one getter; gives the item dropped. -/
def put (r : WaitingRoom α) (a : α) : Option (Option α × WaitingRoom α) :=
  (r.buffer.put a).map fun (dropped, b) => (dropped, ⟨b, wakeFirst r.line⟩)

def close (r : WaitingRoom α) : WaitingRoom α := ⟨r.buffer.close, wakeAll r.line⟩

/-- Takes without waiting, ahead of any getter that was woken but has not run. -/
def take (r : WaitingRoom α) : Delivery α × WaitingRoom α :=
  let (delivery, b) := r.buffer.take
  (delivery, { r with buffer := b })

/-- A getter looks for an item and joins the end of the line if there is none yet. -/
def look (r : WaitingRoom α) (id : Nat) : Delivery α × WaitingRoom α :=
  match r.take with
  | (.nothingYet, r) => (.nothingYet, { r with line := r.line ++ [⟨id, false⟩] })
  | found => found

/-- A getter gives up waiting; false if it was not in line. -/
def leave (r : WaitingRoom α) (id : Nat) : Bool × WaitingRoom α :=
  if r.line.any (·.id == id) then (true, { r with line := r.line.filter (·.id != id) })
  else (false, r)

/-- The getters listed look in turn; gives what each that is done received. -/
def lookAll (r : WaitingRoom α) : List Waiter → List (Nat × Option α) × WaitingRoom α
  | [] => ([], r)
  | w :: rest =>
    match r.look w.id with
    | (.item a, r) => let (done, r) := r.lookAll rest; ((w.id, some a) :: done, r)
    | (.finished, r) => let (done, r) := r.lookAll rest; ((w.id, none) :: done, r)
    | (.nothingYet, r) => r.lookAll rest

/-- Lets all woken getters run, in the order of the line. -/
def settle (r : WaitingRoom α) : List (Nat × Option α) × WaitingRoom α :=
  let woken := r.line.filter (·.woken)
  lookAll { r with line := r.line.filter (!·.woken) } woken

end WaitingRoom

end MetricArchive
