import MetricArchive.Proofs.Store.Writing

/-!
# What a store holds after any run

Several writers share a store. They write in turn, each write commits or fails at some point, and a
writer may at any time be replaced by a new one or forget its cache. Main statement: read back, the
store is the samples of the scrapes that committed, in the order of the commits.
-/
namespace MetricArchive

/-- A store and its writers. A writer that did not write yet is new. -/
structure Archive where
  store : Store
  writers : Nat → Writer

namespace Archive

/-- How far a write gets. -/
inductive Attempt where
  /-- Failures come between calls, at the insertion of the points or at the commit. -/
  | disrupted (d : Disruption)
  /-- A failure comes within a call. -/
  | brokenOff (failure : Failure) (calls pairs : Nat)

inductive Move where
  | write (writer : Nat) (attempt : Attempt) (scrape : Scrape)
  | reopen (writer : Nat)
  | clear (writer : Nat)

def Attempt.outcome (store : Store) (w : Writer) (s : Scrape) : Attempt → Writer.Outcome
  | .disrupted d => Writer.write d store w s
  | .brokenOff failure calls pairs => Writer.breakOff failure calls pairs store w s

def empty : Archive := ⟨.empty, fun _ => .new⟩

def step (a : Archive) : Move → Archive
  | .write k attempt s =>
    let o := attempt.outcome a.store (a.writers k) s
    ⟨o.store, Function.update a.writers k o.writer⟩
  | .reopen k => { a with writers := Function.update a.writers k .new }
  | .clear k =>
    { a with writers := Function.update a.writers k { a.writers k with cache := .empty } }

def run (a : Archive) (moves : List Move) : Archive := moves.foldl step a

/-- The scrape of a write that its writer counts as written. -/
def committed (a : Archive) : Move → List Scrape
  | .write k attempt s =>
    if (attempt.outcome a.store (a.writers k) s).writer.metrics.scrapesWritten =
        (a.writers k).metrics.scrapesWritten then []
    else [s]
  | _ => []

def written (a : Archive) : List Move → List Scrape
  | [] => []
  | m :: rest => a.committed m ++ (a.step m).written rest

/-- True tables, true caches, and a row of points for each observation. -/
structure Holds (a : Archive) (seen : List Observation) : Prop where
  serves : a.store.Serves (Writer.cache ∘ a.writers)
  shows : List.Forall₂ a.store.Shows a.store.points seen

variable {a : Archive} {seen : List Observation}

theorem empty_holds : empty.Holds [] where
  serves := Store.Serves.empty
  shows := .nil

def Attempt.failure? (w : Writer) (s : Scrape) : Attempt → Option Failure
  | .disrupted d => d.first? w.calls (Writer.requests s).length
  | .brokenOff failure _ _ => some failure

theorem Attempt.outcome_cases (attempt : Attempt) (s : Scrape) {store : Store} {w : Writer}
    (hb : store.WellFormed) (hc : w.cache.Settled store) :
    match attempt.failure? w s with
    | none => Writer.Kept store w s (attempt.outcome store w s)
    | some failure => Writer.Lost failure store w s (attempt.outcome store w s) := by
  cases attempt with
  | disrupted d => exact Writer.write_cases d s hb hc
  | brokenOff failure calls pairs => exact Writer.breakOff_lost failure calls pairs s hb hc

theorem Attempt.outcome_grown (attempt : Attempt) (s : Scrape) {store : Store} {w : Writer}
    (hb : store.WellFormed) (hc : w.cache.Settled store) :
    (attempt.outcome store w s).store.WellFormed ∧
      store.Extends (attempt.outcome store w s).store := by
  have ho := attempt.outcome_cases s hb hc
  split at ho
  · exact ⟨ho.added.wellFormed, ho.grown⟩
  · rw [ho.store]
    exact ⟨hb, .refl store⟩

section Committed

variable {attempt : Attempt} {k : Nat} {s : Scrape}

theorem committed_kept
    (h : Writer.Kept a.store (a.writers k) s (attempt.outcome a.store (a.writers k) s)) :
    a.committed (.write k attempt s) = [s] :=
  if_neg (by rw [h.counted]; exact Nat.succ_ne_self _)

theorem committed_lost {failure : Failure}
    (h : Writer.Lost failure a.store (a.writers k) s (attempt.outcome a.store (a.writers k) s)) :
    a.committed (.write k attempt s) = [] :=
  if_pos h.uncounted

end Committed

/-- One writer's cache is exchanged for one that is as true. -/
theorem Holds.setWriter (h : a.Holds seen) (k : Nat) {w : Writer}
    (hc : w.cache.Settled a.store) :
    Holds { a with writers := Function.update a.writers k w } seen where
  serves := by
    rw [Function.comp_update]
    exact h.serves.update h.serves.wellFormed (.refl _) k hc
  shows := h.shows

theorem Holds.write_kept (h : a.Holds seen) {k : Nat} {s : Scrape} {o : Writer.Outcome}
    (ho : Writer.Kept a.store (a.writers k) s o) :
    Holds ⟨o.store, Function.update a.writers k o.writer⟩ (seen ++ s.observations) where
  serves := by
    rw [Function.comp_update]
    exact h.serves.update ho.added.wellFormed ho.grown k ho.settled
  shows := by
    obtain ⟨rows, hrows, hnew⟩ := ho.added.rows
    have hold := h.shows.imp fun p e hp => hp.mono h.serves.wellFormed ho.grown
    rw [hrows]
    exact List.rel_append hold hnew

theorem Holds.step (h : a.Holds seen) (m : Move) :
    (a.step m).Holds (seen ++ (a.committed m).flatMap Scrape.observations) := by
  cases m with
  | reopen k =>
    simpa [committed, Archive.step] using h.setWriter k (w := .new) (SeriesCache.empty_settled _)
  | clear k =>
    simpa [committed, Archive.step] using
      h.setWriter k (w := { a.writers k with cache := .empty }) (SeriesCache.empty_settled _)
  | write k attempt s =>
    have hc := h.serves.settled k
    have ho := attempt.outcome_cases s h.serves.wellFormed hc
    split at ho
    · simpa [committed_kept ho, Archive.step] using h.write_kept ho
    · simp only [committed_lost ho, List.flatMap_nil, List.append_nil, Archive.step, ho.store]
      exact h.setWriter k (by rw [ho.cache]; exact hc)

theorem Holds.run (h : a.Holds seen) (moves : List Move) :
    (a.run moves).Holds (seen ++ (a.written moves).flatMap Scrape.observations) := by
  induction moves generalizing a seen with
  | nil => simpa [Archive.run, written] using h
  | cons m rest ih =>
    have hrest := ih (h.step m)
    simpa [Archive.run, written, List.append_assoc] using hrest

theorem Holds.committed_undisturbed (h : a.Holds seen) (k : Nat) (s : Scrape) :
    a.committed (.write k (.disrupted .none) s) = [s] := by
  have ho := Attempt.outcome_cases (.disrupted .none) s h.serves.wellFormed (h.serves.settled k)
  simp only [Attempt.failure?, Disruption.first?_none] at ho
  exact committed_kept ho

/-- The store is what was written to it, and only a disturbance keeps a scrape out of it. -/
theorem run_readBack (moves : List Move) :
    (empty.run moves).store.readBack = (empty.written moves).flatMap Scrape.observations ∧
      ∀ k s, (empty.run moves).committed (.write k (.disrupted .none) s) = [s] := by
  have h := empty_holds.run moves
  refine ⟨?_, h.committed_undisturbed⟩
  simpa using Store.readBack_eq h.serves.wellFormed h.shows

end Archive

end MetricArchive
