import Mathlib.Data.List.Perm.Basic
import MetricArchive.Proofs.Buffer.Moves

/-!
# The history of a buffer

What a run of moves told its callers says which items were accepted, and which left the buffer and
how. Main statement: items leave at the old end only, so those that left and those in the queue are
together the accepted ones in their order; an item is dropped only for one that is put into a full
buffer, so the newest ones are safe; and the counters agree with the history.
-/
namespace MetricArchive

variable {α : Type}

inductive Removal (α : Type) where
  | dropped (a : α)
  | delivered (a : α)
  deriving DecidableEq, Repr

namespace Removal

def item : Removal α → α
  | .dropped a => a
  | .delivered a => a

def dropped? : Removal α → Option α
  | .dropped a => some a
  | .delivered _ => none

def delivered? : Removal α → Option α
  | .dropped _ => none
  | .delivered a => some a

theorem parts_perm (l : List (Removal α)) :
    (l.map item).Perm (l.filterMap dropped? ++ l.filterMap delivered?) := by
  induction l with
  | nil => rfl
  | cons x l ih =>
    cases x with
    | dropped a => simpa [item, dropped?, delivered?, List.filterMap_cons] using ih
    | delivered a =>
      simpa [item, dropped?, delivered?, List.filterMap_cons] using
        (ih.cons a).trans List.perm_middle.symm

theorem delivered_sublist (l : List (Removal α)) :
    (l.filterMap delivered?).Sublist (l.map item) := by
  induction l with
  | nil => exact .slnil
  | cons x l ih =>
    cases x with
    | dropped a => exact ih.cons a
    | delivered a => exact ih.cons_cons a

end Removal

namespace Buffer

variable {b : Buffer α}

theorem new?_eq {capacity : Int} (h : new? capacity = some b) :
    1 ≤ capacity ∧ b = ⟨capacity.toNat, [], false, ⟨0, 0, 0, 0⟩⟩ := by
  unfold new? at h
  split at h
  · cases h
  · cases h
    exact ⟨by omega, rfl⟩

theorem put_closed (h : b.closed = true) (a : α) : b.put a = none := by
  simp [put, h]

/-- The buffer with a new item behind some of its old ones. -/
def push (b : Buffer α) (kept : List α) (lost : Nat) (a : α) : Buffer α :=
  { b with
    queue := kept ++ [a]
    metrics := { b.metrics with
      pushed := b.metrics.pushed + 1
      dropped := b.metrics.dropped + lost
      maxDepth := max b.metrics.maxDepth (kept ++ [a]).length } }

theorem put_room (h : b.closed = false) (hroom : b.queue = [] ∨ b.depth < b.capacity) (a : α) :
    b.put a = some (none, b.push b.queue 0 a) := by
  have hkept : b.makeRoom = (none, b) := by
    unfold makeRoom
    rcases hq : b.queue with _ | ⟨oldest, rest⟩
    · rfl
    · exact if_neg (Nat.not_le.mpr (hroom.resolve_left (by simp [hq])))
  simp [put, push, h, hkept]

theorem put_full (h : b.closed = false) {oldest : α} {rest : List α}
    (hq : b.queue = oldest :: rest) (hfull : b.capacity ≤ b.depth) (a : α) :
    b.put a = some (some oldest, b.push rest 1 a) := by
  have hlost : b.makeRoom = (some oldest,
      { b with queue := rest, metrics := { b.metrics with dropped := b.metrics.dropped + 1 } }) := by
    simp only [makeRoom, hq]
    exact if_pos hfull
  simp [put, push, h, hlost]

theorem put_cases {a : α} {lost : Option α} {b' : Buffer α} (h : b.put a = some (lost, b')) :
    b.closed = false ∧
      ((lost = none ∧ (b.queue = [] ∨ b.depth < b.capacity) ∧ b' = b.push b.queue 0 a) ∨
        ∃ oldest rest, b.queue = oldest :: rest ∧ b.capacity ≤ b.depth ∧ lost = some oldest ∧
          b' = b.push rest 1 a) := by
  cases hc : b.closed with
  | true =>
    rw [put_closed hc] at h
    cases h
  | false =>
    refine ⟨rfl, ?_⟩
    by_cases hroom : b.queue = [] ∨ b.depth < b.capacity
    · rw [put_room hc hroom] at h
      cases h
      exact .inl ⟨rfl, hroom, rfl⟩
    · obtain ⟨hne, hfull⟩ := not_or.mp hroom
      obtain ⟨oldest, rest, hq⟩ := List.exists_cons_of_ne_nil hne
      rw [put_full hc hq (Nat.not_lt.mp hfull)] at h
      cases h
      exact .inr ⟨oldest, rest, hq, Nat.not_lt.mp hfull, rfl, rfl⟩

theorem put_frame {a : α} {lost : Option α} {b' : Buffer α} (h : b.put a = some (lost, b')) :
    b'.closed = b.closed ∧ b'.capacity = b.capacity ∧ b'.depth ≤ b.depth + 1 := by
  obtain ⟨-, ⟨-, -, rfl⟩ | ⟨oldest, rest, hq, -, -, rfl⟩⟩ := put_cases h
  · exact ⟨rfl, rfl, by simp [push, depth]⟩
  · exact ⟨rfl, rfl, by simp [push, depth, hq]⟩

theorem take_frame (b : Buffer α) :
    b.take.2.closed = b.closed ∧ b.take.2.capacity = b.capacity := by
  unfold take
  split <;> exact ⟨rfl, rfl⟩

theorem take_finished (h : b.take.1 = .finished) : b.closed = true ∧ b.queue = [] := by
  cases hq : b.queue with
  | nil =>
    cases hc : b.closed with
    | true => exact ⟨rfl, rfl⟩
    | false => simp [take, hq, hc] at h
  | cons oldest rest => simp [take, hq] at h

end Buffer

namespace WaitingRoom

def Answer.accepted? : Answer α → Option α
  | .accepted a _ => some a
  | _ => none

def Answer.removal? : Answer α → Option (Removal α)
  | .accepted _ (some a) => some (.dropped a)
  | .delivery _ (.item a) => some (.delivered a)
  | _ => none

def accepted (history : List (Answer α)) : List α := history.filterMap Answer.accepted?

def removed (history : List (Answer α)) : List (Removal α) := history.filterMap Answer.removal?

def dropped (history : List (Answer α)) : List α := (removed history).filterMap Removal.dropped?

def delivered (history : List (Answer α)) : List α :=
  (removed history).filterMap Removal.delivered?

/-- What a history says of the buffer that it led to. An item that was dropped had as many newer
ones as the buffer holds. -/
structure Explains (history : List (Answer α)) (b : Buffer α) : Prop where
  order : accepted history = (removed history).map Removal.item ++ b.queue
  pushed : b.metrics.pushed = (accepted history).length
  popped : b.metrics.popped = (delivered history).length
  dropped : b.metrics.dropped = (dropped history).length
  depth_le : b.depth ≤ b.metrics.maxDepth
  maxDepth_le : b.metrics.maxDepth ≤ b.capacity
  recent : ∀ i a, (removed history)[i]? = some (.dropped a) →
    i + b.capacity < (accepted history).length

variable {history : List (Answer α)} {b : Buffer α} {r : WaitingRoom α}

theorem accepted_append (l k : List (Answer α)) :
    accepted (l ++ k) = accepted l ++ accepted k := List.filterMap_append

theorem removed_append (l k : List (Answer α)) :
    removed (l ++ k) = removed l ++ removed k := List.filterMap_append

theorem dropped_append (l k : List (Answer α)) :
    dropped (l ++ k) = dropped l ++ dropped k := by
  simp [dropped, removed_append]

theorem delivered_append (l k : List (Answer α)) :
    delivered (l ++ k) = delivered l ++ delivered k := by
  simp [delivered, removed_append]

namespace Explains

theorem new {capacity : Int} (h : Buffer.new? capacity = some b) : Explains [] b := by
  obtain ⟨-, rfl⟩ := Buffer.new?_eq h
  exact ⟨rfl, rfl, rfl, rfl, Nat.le_refl 0, Nat.zero_le _, by simp [removed]⟩

theorem accepted_length (h : Explains history b) :
    (accepted history).length = (removed history).length + b.depth := by
  rw [h.order, List.length_append, List.length_map, Buffer.depth]

/-- One more answer, with what it says of the queue and the counters. -/
theorem extend (h : Explains history b) {answer : Answer α} {b' : Buffer α}
    (hcapacity : b'.capacity = b.capacity)
    (horder : b.queue ++ accepted [answer] =
      (removed [answer]).map Removal.item ++ b'.queue)
    (hpushed : b'.metrics.pushed = b.metrics.pushed + (accepted [answer]).length)
    (hpopped : b'.metrics.popped = b.metrics.popped + (delivered [answer]).length)
    (hdropped : b'.metrics.dropped = b.metrics.dropped + (WaitingRoom.dropped [answer]).length)
    (hdepth : b'.depth ≤ b'.metrics.maxDepth) (hmax : b'.metrics.maxDepth ≤ b'.capacity)
    (hfull : ∀ a, .dropped a ∈ removed [answer] →
      b.capacity < b.depth + (accepted [answer]).length) :
    Explains (history ++ [answer]) b' where
  order := by
    rw [accepted_append, removed_append, List.map_append, h.order, List.append_assoc, horder,
      List.append_assoc]
  pushed := by rw [hpushed, h.pushed, accepted_append, List.length_append]
  popped := by rw [hpopped, h.popped, delivered_append, List.length_append]
  dropped := by rw [hdropped, h.dropped, dropped_append, List.length_append]
  depth_le := hdepth
  maxDepth_le := hmax
  recent := by
    intro i a hi
    rw [removed_append, List.getElem?_append] at hi
    rw [accepted_append, List.length_append, hcapacity]
    split at hi
    · have hold := h.recent i a hi
      omega
    · have hnew := hfull a (List.mem_of_getElem? hi)
      have hone : (removed [answer]).length ≤ 1 := List.length_filterMap_le _ _
      obtain ⟨hlt, -⟩ := List.getElem?_eq_some_iff.mp hi
      have hlength := h.accepted_length
      omega

theorem silent (h : Explains history b) {answer : Answer α} (ha : accepted [answer] = [])
    (hr : removed [answer] = []) : Explains (history ++ [answer]) b := by
  refine h.extend rfl ?_ ?_ ?_ ?_ h.depth_le h.maxDepth_le ?_ <;>
    simp [ha, hr, delivered, WaitingRoom.dropped]

theorem close (h : Explains history b) : Explains history b.close := { h with }

theorem put (h : Explains history b) (hcapacity : 1 ≤ b.capacity) {a : α} {lost : Option α}
    {b' : Buffer α} (hput : b.put a = some (lost, b')) :
    Explains (history ++ [.accepted a lost]) b' := by
  have hle := Nat.le_trans h.depth_le h.maxDepth_le
  obtain ⟨-, ⟨rfl, hroom, rfl⟩ | ⟨oldest, rest, hq, hfull, rfl, rfl⟩⟩ := Buffer.put_cases hput
  · have hlt : b.queue.length + 1 ≤ b.capacity := by
      rcases hroom with hq | hroom
      · rw [hq]
        exact hcapacity
      · exact hroom
    refine h.extend rfl rfl rfl rfl rfl (Nat.le_max_right _ _) ?_ nofun
    exact Nat.max_le.mpr ⟨h.maxDepth_le, by simpa [Buffer.push] using hlt⟩
  · have hsame : (rest ++ [a]).length = b.depth := by simp [Buffer.depth, hq]
    refine h.extend rfl (by rw [hq]; rfl) rfl rfl rfl (Nat.le_max_right _ _) ?_ fun _ _ => ?_
    · exact Nat.max_le.mpr ⟨h.maxDepth_le, hsame ▸ hle⟩
    · exact Nat.lt_succ_of_le hfull

theorem take (h : Explains history b) (id : Nat) :
    Explains (history ++ [.delivery id b.take.1]) b.take.2 := by
  cases hq : b.queue with
  | nil =>
    have htake : b.take = (if b.closed then .finished else .nothingYet, b) := by
      simp [Buffer.take, hq]
    rw [htake]
    cases b.closed <;> exact h.silent rfl rfl
  | cons oldest rest =>
    have hdepth := h.depth_le
    have htake : b.take = (.item oldest,
        { b with queue := rest, metrics := { b.metrics with popped := b.metrics.popped + 1 } }) := by
      simp [Buffer.take, hq]
    rw [htake]
    refine h.extend rfl (by rw [hq]; exact List.append_nil _) rfl rfl rfl ?_ h.maxDepth_le ?_
    · simp only [Buffer.depth, hq, List.length_cons] at hdepth ⊢
      omega
    · intro a ha
      simp [removed, Answer.removal?] at ha

end Explains

/-- What a move does to the buffer and what it tells. -/
inductive Effect (b : Buffer α) : Move α → Answer α → Buffer α → Prop where
  | refused {a : α} : b.put a = none → Effect b (.put a) (.refused a) b
  | accepted {a : α} {lost : Option α} {b' : Buffer α} :
    b.put a = some (lost, b') → Effect b (.put a) (.accepted a lost) b'
  | looked (id : Nat) : Effect b (.get id) (.delivery id b.take.1) b.take.2
  | resumed (id : Nat) : Effect b (.resume id) (.delivery id b.take.1) b.take.2
  | notWoken (id : Nat) : Effect b (.resume id) (.delivery id .nothingYet) b
  | left (id : Nat) : Effect b (.leave id) .done b
  | closed : Effect b .close .done b.close

theorem step_effect (r : WaitingRoom α) (m : Move α) :
    Effect r.buffer m (r.step m).1 (r.step m).2.buffer := by
  cases m with
  | put a =>
    simp only [step, WaitingRoom.put]
    cases hput : r.buffer.put a with
    | none => exact .refused hput
    | some p => exact .accepted hput
  | get id =>
    rw [step, look_eq]
    exact .looked id
  | resume id =>
    by_cases hw : ⟨id, true⟩ ∈ r.line
    · rw [step_resume hw rfl]
      exact .resumed id
    · rw [step, resume, if_neg hw]
      exact .notWoken id
  | leave id =>
    have hsame : (r.leave id).2.buffer = r.buffer := by
      unfold leave
      split <;> rfl
    simp only [step, hsame]
    exact .left id
  | close => exact .closed

namespace Effect

variable {m : Move α} {answer : Answer α} {b' : Buffer α}

theorem explains (e : Effect b m answer b') (h : Explains history b) (hcapacity : 1 ≤ b.capacity) :
    Explains (history ++ [answer]) b' := by
  cases e with
  | refused => exact h.silent rfl rfl
  | accepted hput => exact h.put hcapacity hput
  | looked id => exact h.take id
  | resumed id => exact h.take id
  | notWoken => exact h.silent rfl rfl
  | left => exact h.silent rfl rfl
  | closed => exact h.close.silent rfl rfl

theorem capacity_eq (e : Effect b m answer b') : b'.capacity = b.capacity := by
  cases e with
  | refused => rfl
  | accepted hput => exact (Buffer.put_frame hput).2.1
  | looked => exact b.take_frame.2
  | resumed => exact b.take_frame.2
  | notWoken => rfl
  | left => rfl
  | closed => rfl

theorem closed_iff (e : Effect b m answer b') :
    b'.closed = true ↔ b.closed = true ∨ m = .close := by
  cases e with
  | refused => simp
  | accepted hput => simp [(Buffer.put_frame hput).1]
  | looked => simp [b.take_frame.1]
  | resumed => simp [b.take_frame.1]
  | notWoken => simp
  | left => simp
  | closed => simp [Buffer.close]

theorem finished (e : Effect b m answer b') {id : Nat} (h : answer = .delivery id .finished) :
    b.closed = true ∧ b.queue = [] := by
  cases e with
  | refused => cases h
  | accepted => cases h
  | looked => exact Buffer.take_finished (Answer.delivery.inj h).2
  | resumed => exact Buffer.take_finished (Answer.delivery.inj h).2
  | notWoken => cases h
  | left => cases h
  | closed => cases h

end Effect

/-- A put into an open buffer is accepted, and exactly a full buffer drops its oldest item. -/
theorem Explains.step_put (h : Explains history r.buffer) (hcapacity : 1 ≤ r.buffer.capacity)
    (hopen : r.buffer.closed = false) (a : α) :
    (r.buffer.depth < r.buffer.capacity ∧ (r.step (.put a)).1 = .accepted a none) ∨
      ∃ oldest rest, r.buffer.queue = oldest :: rest ∧ r.buffer.depth = r.buffer.capacity ∧
        (r.step (.put a)).1 = .accepted a (some oldest) := by
  have hle := Nat.le_trans h.depth_le h.maxDepth_le
  rcases Nat.lt_or_ge r.buffer.depth r.buffer.capacity with hroom | hfull
  · refine .inl ⟨hroom, ?_⟩
    simp [step, WaitingRoom.put, Buffer.put_room hopen (.inr hroom)]
  · obtain ⟨oldest, rest, hq⟩ : ∃ oldest rest, r.buffer.queue = oldest :: rest :=
      List.exists_cons_of_length_pos (Nat.le_trans hcapacity hfull)
    refine .inr ⟨oldest, rest, hq, Nat.le_antisymm hle hfull, ?_⟩
    simp [step, WaitingRoom.put, Buffer.put_full hopen hq hfull]

theorem step_put_closed (h : r.buffer.closed = true) (a : α) :
    r.step (.put a) = (.refused a, r) := by
  simp [step, WaitingRoom.put, Buffer.put_closed h]

theorem Explains.run (h : Explains history r.buffer) (hcapacity : 1 ≤ r.buffer.capacity)
    (moves : List (Move α)) : Explains (history ++ (r.run moves).1) (r.run moves).2.buffer := by
  induction moves generalizing r history with
  | nil => simpa [WaitingRoom.run] using h
  | cons m rest ih =>
    have e := r.step_effect m
    have hrest := ih (e.explains h hcapacity) (e.capacity_eq ▸ hcapacity)
    simpa [run_cons, List.append_assoc] using hrest

theorem run_capacity (r : WaitingRoom α) (moves : List (Move α)) :
    (r.run moves).2.buffer.capacity = r.buffer.capacity := by
  induction moves generalizing r with
  | nil => rfl
  | cons m rest ih => exact (ih _).trans (r.step_effect m).capacity_eq

theorem run_closed_iff (r : WaitingRoom α) (moves : List (Move α)) :
    (r.run moves).2.buffer.closed = true ↔ r.buffer.closed = true ∨ .close ∈ moves := by
  induction moves generalizing r with
  | nil => simp [WaitingRoom.run]
  | cons m rest ih =>
    rw [run_cons, ih, (r.step_effect m).closed_iff, List.mem_cons, or_assoc, eq_comm (a := m)]

/-- A buffer keeps the newest of what it accepted in order, drops only for want of room, and its
counters and answers say so. -/
theorem run_history {capacity : Int} (hb : Buffer.new? capacity = some b) (moves : List (Move α)) :
    let history := (run ⟨b, []⟩ moves).1
    let r := (run ⟨b, []⟩ moves).2
    let m := r.buffer.metrics
    let room := capacity.toNat
    (accepted history = (removed history).map Removal.item ++ r.buffer.queue ∧
      (accepted history).Perm (dropped history ++ delivered history ++ r.buffer.queue) ∧
      (delivered history).Sublist (accepted history)) ∧
    (m.pushed = m.popped + m.dropped + r.buffer.depth ∧ r.buffer.depth ≤ m.maxDepth ∧
      m.maxDepth ≤ room) ∧
    (∀ (i : Nat) (a : α), (removed history)[i]? = some (.dropped a) →
      i + room < (accepted history).length) ∧
    (∀ a, r.buffer.closed = false →
      (r.buffer.depth < room ∧ (r.step (.put a)).1 = .accepted a none) ∨
        ∃ oldest rest, r.buffer.queue = oldest :: rest ∧ r.buffer.depth = room ∧
          (r.step (.put a)).1 = .accepted a (some oldest)) ∧
    (.close ∈ moves → ∀ a, r.step (.put a) = (.refused a, r)) ∧
    ∀ move id, (r.step move).1 = .delivery id .finished →
      .close ∈ moves ∧ r.buffer.queue = [] := by
  obtain ⟨hone, hnew⟩ := Buffer.new?_eq hb
  have hroom : b.capacity = capacity.toNat := by rw [hnew]
  have hopen : b.closed = false := by rw [hnew]
  have hcapacity : 1 ≤ b.capacity := by omega
  have h := (Explains.new hb).run (r := ⟨b, []⟩) hcapacity moves
  have hsame := run_capacity ⟨b, []⟩ moves
  have hclosed := run_closed_iff ⟨b, []⟩ moves
  simp only [List.nil_append, hopen, Bool.false_eq_true, false_or] at h hsame hclosed
  generalize run ⟨b, []⟩ moves = result at h hsame hclosed ⊢
  obtain ⟨history, r⟩ := result
  simp only at h hsame hclosed ⊢
  rw [← hroom, ← hsame]
  have hparts := Removal.parts_perm (removed history)
  refine ⟨⟨h.order, ?_, ?_⟩, ⟨?_, h.depth_le, h.maxDepth_le⟩, h.recent,
    fun a ho => h.step_put (hsame ▸ hcapacity) ho a,
    fun hmem => step_put_closed (hclosed.mpr hmem), fun move id hmove => ?_⟩
  · rw [h.order]
    exact hparts.append_right _
  · rw [h.order]
    exact (Removal.delivered_sublist _).trans (List.sublist_append_left _ _)
  · have hlength := hparts.length_eq
    rw [List.length_map, List.length_append] at hlength
    rw [h.pushed, h.popped, h.dropped, h.accepted_length, hlength]
    exact congrArg (· + _) (Nat.add_comm _ _)
  · obtain ⟨hc, hq⟩ := (r.step_effect move).finished hmove
    exact ⟨hclosed.mp hc, hq⟩

/-- A getter that is woken finds its item gone, waits again and is cancelled once it is woken anew;
meanwhile a third item is too many. -/
def overtaken : List (Move Nat) :=
  [.get 0, .put 10, .get 1, .resume 0, .put 20, .put 30, .put 40, .leave 0, .close, .get 2]

theorem run_history_overtaken :
    let b : Buffer Nat := ⟨2, [], false, ⟨0, 0, 0, 0⟩⟩
    let history := (run ⟨b, []⟩ overtaken).1
    Buffer.new? 2 = some b ∧ dropped history = [20] ∧ delivered history = [10, 30] ∧
      (accepted history).Perm ([20] ++ [10, 30] ++ [40]) := by
  have hb : Buffer.new? 2 = some (⟨2, [], false, ⟨0, 0, 0, 0⟩⟩ : Buffer Nat) := rfl
  exact ⟨hb, rfl, rfl, (run_history hb overtaken).1.2.1⟩

end WaitingRoom

end MetricArchive
