import Mathlib.Data.List.Basic
import MetricArchive.Buffer.Waiting

/-!
# Moves before a buffer

Puts, getters, cancellations and a close come in any order, and a getter that was woken gets its
turn at any later moment. A run makes such moves one after the other and keeps what each of them
told whoever made it. Main statement: to let all woken getters run, in whichever order, is a run.
-/
namespace MetricArchive

/-- The getter in line that was told to wait. -/
def Delivery.waits {α : Type} (id : Nat) : Delivery α → List Waiter
  | .nothingYet => [⟨id, false⟩]
  | _ => []

namespace WaitingRoom

variable {α : Type}

inductive Move (α : Type) where
  | put (a : α)
  /-- A getter comes and looks. -/
  | get (id : Nat)
  /-- A getter that was woken gets its turn. -/
  | resume (id : Nat)
  /-- A getter in line is cancelled. -/
  | leave (id : Nat)
  | close
  deriving DecidableEq, Repr

/-- What a move tells whoever made it. -/
inductive Answer (α : Type) where
  | accepted (a : α) (dropped : Option α)
  | refused (a : α)
  | delivery (id : Nat) (d : Delivery α)
  | done
  deriving DecidableEq, Repr

/-- A woken getter leaves the line and looks again. Without such a getter nothing happens. -/
def resume (r : WaitingRoom α) (id : Nat) : Delivery α × WaitingRoom α :=
  if ⟨id, true⟩ ∈ r.line then look { r with line := r.line.erase ⟨id, true⟩ } id
  else (.nothingYet, r)

def step (r : WaitingRoom α) : Move α → Answer α × WaitingRoom α
  | .put a =>
    match r.put a with
    | none => (.refused a, r)
    | some (dropped, r) => (.accepted a dropped, r)
  | .get id => ((.delivery id (r.look id).1), (r.look id).2)
  | .resume id => ((.delivery id (r.resume id).1), (r.resume id).2)
  | .leave id => (.done, (r.leave id).2)
  | .close => (.done, r.close)

def run (r : WaitingRoom α) : List (Move α) → List (Answer α) × WaitingRoom α
  | [] => ([], r)
  | m :: rest =>
    let (answer, r) := r.step m
    let (answers, r) := r.run rest
    (answer :: answers, r)

/-- What a getter that is done has received; none stands for the end. -/
def Answer.received? : Answer α → Option (Nat × Option α)
  | .delivery id (.item a) => some (id, some a)
  | .delivery id .finished => some (id, none)
  | _ => none

variable {r : WaitingRoom α}

theorem run_cons (r : WaitingRoom α) (m : Move α) (rest : List (Move α)) :
    r.run (m :: rest) =
      ((r.step m).1 :: ((r.step m).2.run rest).1, ((r.step m).2.run rest).2) := rfl

theorem look_eq (r : WaitingRoom α) (id : Nat) :
    r.look id =
      (r.buffer.take.1, ⟨r.buffer.take.2, r.line ++ r.buffer.take.1.waits id⟩) := by
  unfold look take
  rcases r.buffer.take with ⟨_ | _ | _, b⟩ <;> simp [Delivery.waits]

theorem lookAll_cons (r : WaitingRoom α) (w : Waiter) (rest : List Waiter) :
    r.lookAll (w :: rest) =
      ((Answer.delivery w.id (r.look w.id).1).received?.toList ++
        ((r.look w.id).2.lookAll rest).1, ((r.look w.id).2.lookAll rest).2) := by
  rw [lookAll]
  rcases r.look w.id with ⟨_ | _ | _, q⟩ <;> rfl

theorem step_resume {w : Waiter} (hw : w ∈ r.line) (hwoken : w.woken = true) :
    r.step (.resume w.id) =
      (.delivery w.id r.buffer.take.1,
        ⟨r.buffer.take.2, r.line.erase w ++ r.buffer.take.1.waits w.id⟩) := by
  have he : (⟨w.id, true⟩ : Waiter) = w := by rw [← hwoken]
  simp only [step, resume, he, if_pos hw, look_eq]

/-- Who is left asleep and who is left woken when a woken getter leaves the line. -/
theorem filter_erase {line : List Waiter} {w : Waiter} (hw : w ∈ line) (hwoken : w.woken = true) :
    (line.erase w).filter (!·.woken) = line.filter (!·.woken) ∧
      (line.filter (·.woken)).Perm (w :: (line.erase w).filter (·.woken)) := by
  obtain ⟨front, back, -, hline, herase⟩ := List.exists_erase_eq hw
  rw [herase, hline]
  constructor
  · simp [List.filter_append, hwoken]
  · simp [List.filter_append, hwoken]

theorem waits_asleep (d : Delivery α) (id : Nat) : ∀ w ∈ d.waits id, w.woken = false := by
  cases d <;> simp [Delivery.waits]

/-- Whoever is told to wait again is asleep, so each woken getter has one turn. -/
theorem run_resume (order : List Waiter) (h : order.Perm (r.line.filter (·.woken))) :
    lookAll { r with line := r.line.filter (!·.woken) } order =
      ((r.run (order.map (.resume ·.id))).1.filterMap Answer.received?,
        (r.run (order.map (.resume ·.id))).2) := by
  induction order generalizing r with
  | nil =>
    have hnone : r.line.filter (!·.woken) = r.line := by
      refine List.filter_eq_self.mpr fun w hw => ?_
      simpa using List.filter_eq_nil_iff.mp h.nil_eq.symm w hw
    simp only [hnone, lookAll, List.map_nil, run, List.filterMap_nil]
  | cons w order ih =>
    obtain ⟨hw, hwoken⟩ := List.mem_filter.mp (h.subset List.mem_cons_self)
    obtain ⟨hasleep, hleft⟩ := filter_erase hw hwoken
    have hwaits := waits_asleep r.buffer.take.1 w.id
    have hstill : (r.buffer.take.1.waits w.id).filter (!·.woken) = r.buffer.take.1.waits w.id :=
      List.filter_eq_self.mpr fun v hv => by simp [hwaits v hv]
    have hnone : (r.buffer.take.1.waits w.id).filter (·.woken) = [] :=
      List.filter_eq_nil_iff.mpr fun v hv => by simp [hwaits v hv]
    have hrest : order.Perm
        ((r.line.erase w ++ r.buffer.take.1.waits w.id).filter (·.woken)) := by
      rw [List.filter_append, hnone, List.append_nil]
      exact (h.trans hleft).cons_inv
    have hlater := ih (r := ⟨r.buffer.take.2, r.line.erase w ++ r.buffer.take.1.waits w.id⟩) hrest
    simp only [List.filter_append, hasleep, hstill] at hlater
    rw [lookAll_cons, List.map_cons, run_cons, step_resume hw hwoken, look_eq, hlater]
    cases r.buffer.take.1 <;> rfl

end WaitingRoom

end MetricArchive
