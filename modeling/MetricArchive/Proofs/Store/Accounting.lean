import MetricArchive.Proofs.Store.Archive

/-!
# What the counters of a writer tell

A write that meets no failure adds one row of points for each sample and counts the samples as
written. A write that fails leaves tables, identifiers and cache as they were; the samples are
counted as lost if the failure is handled, and any other failure passes through and is not counted.
Main statement: so it is after any run, and the counters of a writer are the rows that the store
gained by it and the samples of its writes that returned.
-/
namespace MetricArchive

theorem Scrape.observations_length (s : Scrape) : s.observations.length = s.sampleCount := by
  simp [observations, sampleCount, List.length_flatMap]

namespace Writer

variable {store : Store} {w : Writer} {s : Scrape} {o : Outcome}

theorem Kept.exists_rows (h : Kept store w s o) :
    ∃ rows, o.store.points = store.points ++ rows ∧ rows.length = s.sampleCount := by
  obtain ⟨rows, hrows, hshows⟩ := h.added.rows
  exact ⟨rows, hrows, hshows.length_eq.trans s.observations_length⟩

end Writer

namespace Archive

/-- What is seen of a writer from outside since it was opened: how many rows of points the store
gained by its writes, and how many samples the writes had that returned. -/
structure Tally where
  rows : Nat
  samples : Nat
  deriving DecidableEq, Repr

namespace Tally

def zero : Tally := ⟨0, 0⟩

def write (t : Tally) (s : Scrape) (before : Store) (o : Writer.Outcome) : Tally where
  rows := t.rows + (o.store.points.length - before.points.length)
  samples := t.samples +
    match o.result with
    | .ok _ => s.sampleCount
    | .error _ => 0

def after (t : Tally) (a : Archive) : Move → Tally
  | .write k attempt s => t.write s a.store (attempt.outcome a.store (a.writers k) s)
  | .reopen _ => zero
  | .clear _ => t

structure Agrees (t : Tally) (m : WriterMetrics) : Prop where
  written : m.samplesWritten = t.rows
  returned : m.samplesWritten + m.samplesLost = t.samples

variable {t : Tally} {store : Store} {w : Writer} {s : Scrape} {o : Writer.Outcome}

theorem zero_agrees : zero.Agrees Writer.new.metrics := ⟨rfl, rfl⟩

theorem Agrees.kept (h : t.Agrees w.metrics) (ho : Writer.Kept store w s o) :
    (t.write s store o).Agrees o.writer.metrics := by
  obtain ⟨rows, hrows, hlength⟩ := ho.exists_rows
  obtain ⟨hwritten, hreturned⟩ := h
  constructor
  · simp only [ho.metrics, write, hrows, List.length_append, hlength]
    omega
  · simp only [ho.metrics, write, ho.result]
    omega

theorem Agrees.lost (h : t.Agrees w.metrics) {failure : Failure}
    (ho : Writer.Lost failure store w s o) : (t.write s store o).Agrees o.writer.metrics := by
  obtain ⟨hwritten, hreturned⟩ := h
  cases hf : failure.isHandled with
  | true =>
    constructor
    · simp [ho.metrics, hf, write, ho.store, hwritten]
    · simp only [ho.metrics, ho.result, hf, if_true, write]
      omega
  | false =>
    constructor
    · simp [ho.metrics, hf, write, ho.store, hwritten]
    · simp [ho.metrics, ho.result, hf, write, hreturned]

end Tally

def Move.writer : Move → Nat
  | .write k _ _ => k
  | .reopen k => k
  | .clear k => k

def tally (a : Archive) (k : Nat) (t : Tally) : List Move → Tally
  | [] => t
  | m :: rest => (a.step m).tally k (if m.writer = k then t.after a m else t) rest

variable {a : Archive} {seen : List Observation} {k : Nat} {t : Tally}

theorem step_writers_of_ne {m : Move} (hm : m.writer ≠ k) :
    (a.step m).writers k = a.writers k := by
  cases m <;> exact Function.update_of_ne (Ne.symm hm) _ _

theorem Holds.agrees_step (h : a.Holds seen) (m : Move)
    (ht : t.Agrees (a.writers m.writer).metrics) :
    (t.after a m).Agrees ((a.step m).writers m.writer).metrics := by
  cases m with
  | write k attempt s =>
    have ho := attempt.outcome_cases s h.serves.wellFormed (h.serves.settled k)
    simp only [Tally.after, Archive.step, Move.writer, Function.update_self]
    split at ho
    · exact ht.kept ho
    · exact ht.lost ho
  | reopen k => simpa [Tally.after, Archive.step, Move.writer] using Tally.zero_agrees
  | clear k => simpa [Tally.after, Archive.step, Move.writer] using ht

theorem Holds.agrees_run (h : a.Holds seen) (ht : t.Agrees (a.writers k).metrics)
    (moves : List Move) : (a.tally k t moves).Agrees ((a.run moves).writers k).metrics := by
  induction moves generalizing a seen t with
  | nil => exact ht
  | cons m rest ih =>
    refine ih (h.step m) ?_
    split_ifs with hm
    · subst hm
      exact h.agrees_step m ht
    · rw [step_writers_of_ne hm]
      exact ht

/-- A write does all or nothing, the first failure that it meets decides which, and the counters
tell what all writes came to. -/
theorem run_accounting (moves : List Move) (k : Nat) :
    (∀ (attempt : Attempt) (s : Scrape),
      let a := empty.run moves
      let o := attempt.outcome a.store (a.writers k) s
      match attempt.failure? (a.writers k) s with
      | none => Writer.Kept a.store (a.writers k) s o ∧
          ∃ rows, o.store.points = a.store.points ++ rows ∧ rows.length = s.sampleCount
      | some failure => Writer.Lost failure a.store (a.writers k) s o ∧
          o.writer.cache.NothingStaged) ∧
      let m := ((empty.run moves).writers k).metrics
      m.samplesWritten = (empty.tally k .zero moves).rows ∧
        m.samplesWritten + m.samplesLost = (empty.tally k .zero moves).samples := by
  have h := empty_holds.run moves
  refine ⟨fun attempt s => ?_, ?_⟩
  · have hc := h.serves.settled k
    have ho := attempt.outcome_cases s h.serves.wellFormed hc
    cases hf : attempt.failure? ((empty.run moves).writers k) s with
    | none =>
      simp only [hf] at ho ⊢
      exact ⟨ho, ho.exists_rows⟩
    | some failure =>
      simp only [hf] at ho ⊢
      refine ⟨ho, ?_⟩
      rw [ho.cache]
      exact hc.nothingStaged
  · obtain ⟨hwritten, hreturned⟩ := empty_holds.agrees_run Tally.zero_agrees (k := k) moves
    exact ⟨hwritten, hreturned⟩

end Archive

end MetricArchive
