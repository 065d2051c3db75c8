import MetricArchive.Proofs.Pipeline.Balance

/-!
# Sources that fail

When its source fails the producer closes the buffer, but the run is given up before the consumer
has emptied it. Beside the ledger runs a list of the scrapes that the buffer took. Main statement:
once such a run is over each of them was dropped, written or lost, or its write was undone, or it is
still in the buffer; nothing is left behind if and only if the consumer had finished or stood
between two writes before an empty buffer.
-/
namespace MetricArchive

def Consumer.isDone : Consumer → Bool
  | .finished | .failed _ | .abandoned _ => true
  | _ => false

/-- What can have been cut off where the consumer stands. -/
def Consumer.Explains : Consumer → List Scrape → Prop
  | .failed _, cut => ∃ s, cut = [s]
  | .abandoned s, cut => cut = s.toList
  | _, cut => cut = []

theorem Consumer.explains_iff {c : Consumer} (h : c.isDone = false) {cut : List Scrape} :
    c.Explains cut ↔ cut = [] := by
  cases c with
  | finished | failed | abandoned => cases h
  | waiting | ready | writing => rfl

theorem Consumer.Explains.length_le {c : Consumer} {cut : List Scrape} (h : c.Explains cut) :
    cut.length ≤ 1 := by
  unfold Consumer.Explains at h
  split at h
  · obtain ⟨s, rfl⟩ := h
    exact Nat.le_refl 1
  · rename_i s
    subst h
    cases s <;> simp
  · simp [h]

theorem Consumer.Explains.eq_nil_iff {c : Consumer} {cut : List Scrape} (h : c.Explains cut)
    (hd : c.isDone = true) : cut = [] ↔ c = .finished ∨ c = .abandoned none := by
  cases c with
  | waiting | ready | writing => cases hd
  | finished =>
    have hnil : cut = [] := h
    simpa using hnil
  | failed =>
    obtain ⟨s, rfl⟩ := h
    simp
  | abandoned s =>
    obtain rfl : cut = s.toList := h
    cases s <;> simp

theorem Buffer.put_depth_le {α : Type} {b b' : Buffer α} {a : α} {lost : Option α}
    (hone : 1 ≤ b.capacity) (hroom : b.depth ≤ b.capacity) (h : b.put a = some (lost, b')) :
    b'.depth ≤ b'.capacity := by
  obtain ⟨-, ⟨-, hempty | hlt, rfl⟩ | ⟨oldest, rest, hq, -, -, rfl⟩⟩ := Buffer.put_cases h
  · simpa [Buffer.push, Buffer.depth, hempty] using hone
  · simpa [Buffer.push, Buffer.depth] using Nat.succ_le_of_lt hlt
  · simpa [Buffer.push, Buffer.depth, hq] using hroom

namespace Pipeline

def accepts (p : Pipeline) : Move → List Scrape
  | .turn _ .put => p.producer.scrapes
  | _ => []

/-- The scrapes that the buffer takes in a run, as far as its moves are possible. -/
def accepted (p : Pipeline) : List Move → List Scrape
  | [] => []
  | m :: rest => (p.step m).elim [] fun q => p.accepts m ++ q.accepted rest

/-- A run whose source has not ended by itself: the buffer took what was collected, and what was cut
off is in nobody's hands. -/
structure Follows (l : Ledger) (accepted : List Scrape) (p : Pipeline) : Prop where
  collected : l.collected = accepted ++ p.producer.scrapes
  cut : p.consumer.Explains l.cut
  finished : p.consumer = .finished → p.buffer.closed = true ∧ p.buffer.queue = []
  closed : ∀ failure, p.producer = .ended failure → p.buffer.closed = true
  capacity : 1 ≤ p.buffer.capacity
  room : p.buffer.depth ≤ p.buffer.capacity

variable {l : Ledger} {accepted : List Scrape} {p q : Pipeline} {m : Move}

/-- A run whose source has failed is given up as long as the consumer is not done. -/
theorem mustGiveUp_of_source_failed {failure : SourceFailure}
    (hp : p.producer = .ended (some failure)) : p.mustGiveUp = !p.consumer.isDone := by
  unfold mustGiveUp
  rw [hp]
  cases p.consumer <;> rfl

theorem abandon_consumer (hc : p.consumer.isDone = false) :
    p.abandon.consumer = .abandoned p.consumer.scrapes.head? := by
  unfold abandon
  cases h : p.consumer with
  | finished | failed | abandoned => simp [h, Consumer.isDone] at hc
  | waiting | ready | writing => rfl

namespace Follows

theorem new (name : String) (ahead : List Attempt) {buffer : Buffer Scrape} (store : Store)
    {capacity : Int} (hb : Buffer.new? capacity = some buffer) :
    Follows .empty [] (.new name ahead buffer .new store) := by
  obtain ⟨hcapacity, hnew⟩ := Buffer.new?_eq hb
  have hone : 1 ≤ capacity.toNat := by omega
  exact {
    collected := rfl
    cut := rfl
    finished := fun hdone => by cases hdone
    closed := fun _ hended => by cases hended
    capacity := by rwa [Pipeline.new, hnew]
    room := by
      rw [Pipeline.new, hnew]
      exact Nat.zero_le _ }

theorem report (h : Follows l accepted p) (events : List Event) :
    Follows l accepted (p.report events) := { h with }

theorem start (h : Follows l accepted p) (now : Moment) : Follows l accepted (p.start now) :=
  { h with }

theorem stop (h : Follows l accepted p) : Follows l accepted p.stop := by
  rw [stop_eq]
  exact { h with }

theorem attempt (h : Follows l accepted p) (hp : p.producer = .asking) (a : Attempt)
    (rest : List Attempt) : Follows { l with collected := l.collected ++ a.scrape?.toList } accepted
      (p.attempt a rest) := by
  have hcollected : l.collected = accepted := by simpa [hp, Producer.scrapes] using h.collected
  obtain ⟨failure | _ | s, events⟩ := a
  · exact { h with
      collected := by simp [hcollected, Attempt.scrape?, Pipeline.attempt, Producer.scrapes]
      closed := fun _ hended => by cases hended }
  · exact { h with
      collected := by
        simp [hcollected, Attempt.scrape?, Pipeline.attempt, Pipeline.report, hp, Producer.scrapes]
      closed := fun _ hended => by
        simp [Pipeline.attempt, Pipeline.report, hp] at hended }
  · exact { h with
      collected := by simp [hcollected, Attempt.scrape?, Pipeline.attempt, Producer.scrapes]
      closed := fun _ hended => by cases hended }

theorem put (h : Follows l accepted p) {s : Scrape} {lost : Option Scrape} {b : Buffer Scrape}
    (hp : p.producer = .holding s) (hput : p.buffer.put s = some (lost, b)) :
    Follows { l with dropped := l.dropped ++ lost.toList } (accepted ++ [s])
      { p with buffer := b, producer := .asking } := by
  have hopen := (Buffer.put_cases hput).1
  refine { h with
    collected := ?_
    finished := fun hc => ?_
    closed := fun _ hended => by cases hended
    capacity := (Buffer.put_frame hput).2.1 ▸ h.capacity
    room := Buffer.put_depth_le h.capacity h.room hput }
  · simpa [hp, Producer.scrapes] using h.collected
  · have hclosed := (h.finished hc).1
    rw [hopen] at hclosed
    cases hclosed

theorem close (h : Follows l accepted p) {failure : Option SourceFailure}
    (hp : p.producer = .closing failure) :
    Follows l accepted { p with producer := .ended failure, buffer := p.buffer.close } :=
  { h with
    collected := by simpa [hp, Producer.scrapes] using h.collected
    finished := fun hc => ⟨rfl, (h.finished hc).2⟩
    closed := fun _ _ => rfl }

/-- The consumer begins, or finds that all is done. -/
theorem consume (h : Follows l accepted p) {next : Consumer} (hc : p.consumer.isDone = false)
    (hcut : next.Explains [])
    (hnext : next = .finished → p.buffer.closed = true ∧ p.buffer.queue = []) :
    Follows l accepted { p with consumer := next } :=
  { h with
    cut := ((Consumer.explains_iff hc).mp h.cut).symm ▸ hcut
    finished := hnext }

theorem take (h : Follows l accepted p) (hc : p.consumer = .ready) {s : Scrape}
    {rest : List Scrape} (hq : p.buffer.queue = s :: rest) :
    Follows l accepted { p with
      buffer := { p.buffer with
        queue := rest
        metrics := { p.buffer.metrics with popped := p.buffer.metrics.popped + 1 } }
      consumer := .writing s } := by
  have hcut := h.cut
  have hroom := h.room
  rw [hc] at hcut
  rw [Buffer.depth, hq, List.length_cons] at hroom
  exact { h with
    cut := hcut
    finished := fun hdone => by cases hdone
    room := Nat.le_of_succ_le hroom }

theorem settle (h : Follows l accepted p) {s : Scrape} (hc : p.consumer = .writing s)
    {fault : Option Failure} {o : Writer.Outcome} (ho : Writer.Counts fault p.writer s o) :
    Follows (l.enter s fault) accepted (p.settle o) := by
  have hnone : l.cut = [] := (Consumer.explains_iff (by rw [hc]; rfl)).mp h.cut
  have hresult := ho.result
  refine { h with
    collected := (l.enter_frame s fault).1.trans h.collected
    cut := ?_
    finished := fun hdone => ?_ }
  · unfold Pipeline.settle
    rw [hresult]
    cases fault with
    | none => exact hnone
    | some failure =>
      cases hf : failure.isHandled with
      | true => simp [hf, Consumer.Explains, Ledger.enter, hnone, Pipeline.report]
      | false => simp [hf, Consumer.Explains, Ledger.enter, hnone, Pipeline.report]
  · unfold Pipeline.settle at hdone
    cases hr : o.result with
    | ok n =>
      rw [hr] at hdone
      cases hdone
    | error failure =>
      rw [hr] at hdone
      cases hdone

/-- The run is given up after its source has failed. -/
theorem abandon (h : Follows l accepted p) (hgive : p.mustGiveUp = true)
    {failure : SourceFailure} (hp : p.producer = .ended (some failure)) :
    Follows { l with cut := l.cut ++ p.consumer.scrapes ++ p.producer.scrapes } accepted
      p.abandon := by
  have hwork : p.consumer.isDone = false := by
    simpa [mustGiveUp_of_source_failed hp] using hgive
  have hcollected := h.collected
  rw [hp] at hcollected
  refine { h with
    collected := hcollected
    cut := ?_
    finished := ?_
    closed := fun _ _ => rfl }
  · rw [abandon_consumer hwork, hp, (Consumer.explains_iff hwork).mp h.cut]
    cases p.consumer <;> rfl
  · intro hdone
    rw [abandon_consumer hwork] at hdone
    cases hdone

end Follows

/-- A run is given up with a failure of its source only if the source has failed. -/
theorem exists_of_abandon (h : p.abandon.producer ≠ .ended none) :
    ∃ failure, p.producer = .ended (some failure) := by
  unfold abandon sourceFailure? at h
  cases hp : p.producer with
  | ended failure =>
    cases failure with
    | none => simp [hp] at h
    | some failure => exact ⟨failure, rfl⟩
  | asking | holding | closing => simp [hp] at h

/-- What a move does in a run whose source has not ended by itself. -/
theorem follows_after (h : p.producer ≠ .ended none → Follows l accepted p) (e : Effect p m q)
    (hq : q.producer ≠ .ended none) : Follows (p.record l m) (accepted ++ p.accepts m) q := by
  cases e with
  | stopped =>
    have hsame : p.stop.producer = p.producer := by rw [stop_eq]
    simp only [accepts, List.append_nil]
    exact (h (hsame ▸ hq)).stop
  | attempted _ hp hs ha =>
    simp only [record, hp, hs, ha, accepts, List.append_nil]
    exact (h (by simp [hp])).attempt hp _ _
  | exhausted d hp hends =>
    have hfollows := h (by simp [hp])
    have hcollected := hfollows.collected
    rw [hp] at hcollected
    simp only [record_exhausted hp hends, accepts, List.append_nil]
    exact { hfollows with
      collected := hcollected
      closed := fun _ hended => by cases hended }
  | put _ hp hput =>
    simp only [record, hp, hput, accepts, Producer.scrapes, Option.bind_some]
    exact ((h (by simp [hp])).put hp hput).report _
  | closed _ hp =>
    simp only [accepts, List.append_nil]
    exact (h (by simp [hp])).close hp
  | begun _ hc =>
    simp only [accepts, List.append_nil]
    have hready : Follows l accepted { p with consumer := .ready } :=
      (h hq).consume (by rw [hc]; rfl) rfl fun hdone => by cases hdone
    exact hready.report _
  | taken _ hc hqueue =>
    simp only [accepts, List.append_nil]
    exact (h hq).take hc hqueue
  | finished _ hc hqueue hclosed =>
    simp only [accepts, List.append_nil]
    have hdone : Follows l accepted { p with consumer := .finished } :=
      (h hq).consume (by rw [hc]; rfl) rfl fun _ => ⟨hclosed, hqueue⟩
    exact hdone.report _
  | wrote d hc =>
    simp only [record, hc, accepts, List.append_nil]
    exact (h hq).settle hc (Writer.write_counts d _ _ _)
  | brokeOff failure calls pairs hc =>
    simp only [record, hc, accepts, List.append_nil]
    exact (h hq).settle hc (Writer.breakOff_counts failure calls pairs _ _ _)
  | gaveUp _ hgive =>
    obtain ⟨failure, hp⟩ := exists_of_abandon hq
    simp only [accepts, List.append_nil]
    exact (h (by simp [hp])).abandon hgive hp

theorem follows_reach (h : p.producer ≠ .ended none → Follows l accepted p) {moves : List Move}
    (hreach : p.reach moves = some q) (hq : q.producer ≠ .ended none) :
    Follows (p.ledger l moves) (accepted ++ p.accepted moves) q := by
  induction moves generalizing p l accepted with
  | nil =>
    cases hreach
    simpa [ledger, Pipeline.accepted] using h hq
  | cons m rest ih =>
    obtain ⟨middle, hstep, e, hrest⟩ := reach_cons hreach
    rw [ledger, Pipeline.accepted, hstep, Option.elim_some, Option.elim_some, ← List.append_assoc]
    exact ih (follows_after h e) hrest

section Runs

variable {name : String} {ahead : List Attempt} {capacity : Int} {buffer : Buffer Scrape}

theorem launch_follows (hb : Buffer.new? capacity = some buffer) (store : Store) (early : Bool)
    (now : Moment) : Follows .empty [] (launch name ahead buffer store early now) := by
  have h := Follows.new name ahead store hb
  unfold launch
  cases early with
  | true => exact h.stop.start now
  | false => exact h.start now

/-- When the source has failed and the run is over, the scrapes that the buffer took were dropped,
written or lost, but for one whose write was undone and those that are still in the buffer; none is
left behind if and only if the consumer had finished or stood between two writes before an empty
buffer. -/
theorem run_source_failed (store : Store) (early : Bool) (started now : Moment)
    (hb : Buffer.new? capacity = some buffer) :
    let p := launch name ahead buffer store early started
    ∀ moves q failure, p.reach moves = some q → q.producer = .ended (some failure) →
      q.consumer.isDone = true →
      let l := p.ledger .empty moves
      let totals := q.summary now
      q.buffer.closed = true ∧
        (p.accepted moves).Perm (l.dropped ++ l.written ++ l.lost ++ l.cut ++ q.buffer.queue) ∧
        (l.cut.length ≤ 1 ∧ q.buffer.depth ≤ q.buffer.capacity) ∧
        (totals.dropped = l.dropped.length ∧ totals.written = l.written.length ∧
          totals.writeFailed = l.lost.length) ∧
        ((p.accepted moves).Perm (l.dropped ++ l.written ++ l.lost) ↔
          (q.consumer = .finished ∨ q.consumer = .abandoned none) ∧ q.buffer.queue = []) := by
  intro p moves q failure hreach hproducer hdone l totals
  have hl : l.Balances q := balances_reach (launch_balances hb store early started) hreach
  have hne : q.producer ≠ .ended none := by simp [hproducer]
  have hfollows : Follows l (p.accepted moves) q :=
    follows_reach (fun _ => launch_follows hb store early started) hreach hne
  have hperm := hl.conserved
  have hcollected := hfollows.collected
  have hconsumer : q.consumer.scrapes = [] := by
    cases hc : q.consumer with
    | waiting | ready | writing => simp [hc, Consumer.isDone] at hdone
    | finished | failed | abandoned => rfl
  simp only [hproducer, hconsumer, Producer.scrapes, List.append_nil] at hperm hcollected
  rw [hcollected] at hperm
  refine ⟨hfollows.closed _ hproducer, hperm, ⟨hfollows.cut.length_le, hfollows.room⟩,
    ⟨?_, ?_, ?_⟩, ?_⟩
  · simp only [totals, summary, hl.dropped]
  · simp only [totals, summary, hl.writer, Ledger.counts]
  · simp only [totals, summary, hl.writer, Ledger.counts]
  rw [← hfollows.cut.eq_nil_iff hdone]
  constructor
  · intro hall
    have hlength := hperm.length_eq
    rw [hall.length_eq] at hlength
    simp only [List.length_append] at hlength
    exact ⟨List.length_eq_zero_iff.mp (by omega), List.length_eq_zero_iff.mp (by omega)⟩
  · rintro ⟨hcut, hqueue⟩
    simpa [hcut, hqueue] using hperm

/-! Three scrapes and then a failure, with room for one scrape: the second is dropped for the third,
and the run is given up when the first has been written. -/

def reading (k : Nat) : Attempt :=
  .ofReading "scripted" (.utc (k * 1000000)) (Exposition.read [] "a 1\n".toList)

def sourceFails : Attempt := ⟨.error (.unexpected "RuntimeError" "source failed"), []⟩

def deserted : Pipeline :=
  launch "scripted" [reading 0, reading 1, reading 2, sourceFails] ⟨1, [], false, ⟨0, 0, 0, 0⟩⟩
    .empty false (.utc 0)

def desertedMoves : List Move :=
  let turn := Move.turn .none
  [turn .attempt, turn .put, turn .begin, turn .take, turn .attempt, turn .put, turn .attempt,
    turn .put, turn .write, turn .attempt, turn .close, turn .giveUp]

theorem run_source_failed_deserted :
    Buffer.new? 1 = some (⟨1, [], false, ⟨0, 0, 0, 0⟩⟩ : Buffer Scrape) ∧
    ∃ q failure, deserted.reach desertedMoves = some q ∧ q.producer = .ended (some failure) ∧
      q.consumer.isDone = true ∧
      let l := deserted.ledger .empty desertedMoves
      (deserted.accepted desertedMoves).Perm
        (l.dropped ++ l.written ++ l.lost ++ l.cut ++ q.buffer.queue) := by
  have hb : Buffer.new? 1 = some (⟨1, [], false, ⟨0, 0, 0, 0⟩⟩ : Buffer Scrape) := rfl
  have hend : (deserted.reach desertedMoves).map (fun q => (q.producer, q.consumer.isDone)) =
      some (.ended (some (.unexpected "RuntimeError" "source failed")), true) := by decide +kernel
  obtain ⟨q, hreach, hq⟩ := Option.map_eq_some_iff.mp hend
  obtain ⟨hproducer, hdone⟩ := Prod.mk.inj hq
  have h := run_source_failed .empty false (.utc 0) (.utc 0) hb desertedMoves q _ hreach hproducer
    hdone
  exact ⟨hb, q, _, hreach, hproducer, hdone, h.2.1⟩

/-! One scrape and then a failure: the run is given up while the scrape is written. -/

def interrupted : Pipeline :=
  launch "scripted" [reading 0, sourceFails] ⟨3, [], false, ⟨0, 0, 0, 0⟩⟩ .empty false (.utc 0)

def interruptedMoves : List Move :=
  let turn := Move.turn .none
  [turn .attempt, turn .put, turn .attempt, turn .close, turn .begin, turn .take, turn .giveUp]

theorem run_write_undone :
    ∃ q failure, interrupted.reach interruptedMoves = some q ∧
      q.producer = .ended (some failure) ∧ q.consumer.isDone = true ∧
      let l := interrupted.ledger .empty interruptedMoves
      (interrupted.accepted interruptedMoves).length = 1 ∧ l.cut.length = 1 ∧
        ¬ (interrupted.accepted interruptedMoves).Perm (l.dropped ++ l.written ++ l.lost) := by
  have hend : (interrupted.reach interruptedMoves).map
      (fun q => (q.producer, q.consumer.isDone)) =
      some (.ended (some (.unexpected "RuntimeError" "source failed")), true) := by decide +kernel
  obtain ⟨q, hreach, hq⟩ := Option.map_eq_some_iff.mp hend
  obtain ⟨hproducer, hdone⟩ := Prod.mk.inj hq
  have haccepted : (interrupted.accepted interruptedMoves).length = 1 := by decide +kernel
  have hnone : ((interrupted.ledger .empty interruptedMoves).dropped ++
      (interrupted.ledger .empty interruptedMoves).written ++
      (interrupted.ledger .empty interruptedMoves).lost).length = 0 := by decide +kernel
  refine ⟨q, _, hreach, hproducer, hdone, haccepted, by decide +kernel, fun hperm => ?_⟩
  have hlength := hperm.length_eq
  rw [haccepted, hnone] at hlength
  cases hlength

end Runs

end Pipeline

end MetricArchive
