import MetricArchive.Proofs.Store.Resolution

/-!
# Identity of series over whole runs

Several caches share a store and resolve requests in transactions, one transaction after the other.
A transaction is committed or rolled back in the store and in its cache alike, and a rollback gives
identifiers back, so a later transaction hands them out again. Main statement: of all answers that
committed transactions ever gave, two are the same identifier exactly when they were given for the
same metric and the same set of label pairs.
-/
namespace MetricArchive

/-- The requests that have a series, each with its identifier. A request that fails leaves behind
what it did so far, and the transaction may go on. -/
def Session.resolveAll (s : Session) : List SeriesRequest → List (SeriesRequest × Nat) × Session
  | [] => ([], s)
  | r :: rest =>
    let answered := (s.resolve r).2.resolveAll rest
    match (s.resolve r).1 with
    | .ok id => ((r, id) :: answered.1, answered.2)
    | .error _ => answered

theorem Session.resolveAll_snd (s : Session) (r : SeriesRequest) (rest : List SeriesRequest) :
    (s.resolveAll (r :: rest)).2 = ((s.resolve r).2.resolveAll rest).2 := by
  simp only [resolveAll]
  split <;> rfl

/-- A store and the caches that take turns on it. A cache that was never used is empty. -/
structure Shared where
  store : Store
  caches : Nat → SeriesCache

namespace Shared

inductive Move where
  | transaction (cache : Nat) (requests : List SeriesRequest) (commits : Bool)
  | clear (cache : Nat)
  deriving DecidableEq, Repr

def Move.asked : Move → List SeriesRequest
  | .transaction _ requests true => requests
  | _ => []

def empty : Shared := ⟨.empty, fun _ => .empty⟩

def answering (w : Shared) (cache : Nat) (requests : List SeriesRequest) :
    List (SeriesRequest × Nat) × Session :=
  Session.resolveAll ⟨w.store, w.caches cache, []⟩ requests

def step (w : Shared) : Move → Shared
  | .transaction k requests true =>
    let s := (w.answering k requests).2
    ⟨s.store, Function.update w.caches k s.cache.commit⟩
  | .transaction k requests false =>
    { w with caches := Function.update w.caches k (w.answering k requests).2.cache.rollback }
  | .clear k => { w with caches := Function.update w.caches k .empty }

def run (w : Shared) (moves : List Move) : Shared := moves.foldl step w

def committed (w : Shared) : Move → List (SeriesRequest × Nat)
  | .transaction k requests true => (w.answering k requests).1
  | _ => []

def answers (w : Shared) : List Move → List (SeriesRequest × Nat)
  | [] => []
  | t :: rest => w.committed t ++ (w.step t).answers rest

end Shared

namespace Session

variable {base : Store} {c : SeriesCache} {s : Session}

theorem resolveAll_sound (requests : List SeriesRequest) (h : s.Within base c) :
    (s.resolveAll requests).2.Within base c ∧
      s.store.Extends (s.resolveAll requests).2.store ∧
      ∀ a ∈ (s.resolveAll requests).1,
        (s.resolveAll requests).2.store.IsSeries a.1.name a.1.labels.toFinset a.2 := by
  induction requests generalizing s with
  | nil => exact ⟨h, .refl _, by simp [resolveAll]⟩
  | cons r rest ih =>
    obtain ⟨h₁, g₁, -⟩ := resolve_cases h r
    obtain ⟨h₂, g₂, hall⟩ := ih h₁
    rw [resolveAll_snd]
    refine ⟨h₂, g₁.trans g₂, ?_⟩
    intro a ha
    simp only [resolveAll] at ha
    split at ha
    · rename_i id hid
      rcases List.mem_cons.mp ha with rfl | ha
      · exact (resolve_isSeries h hid).mono h₁.wellFormed g₂
      · exact hall a ha
    · exact hall a ha

/-- Requests of a known kind are all answered, and nothing else is. -/
theorem resolveAll_answers (requests : List SeriesRequest) (h : s.Within base c) :
    (requests.filter fun r => (MetricKind.ofName? r.kind).isSome).Sublist
        ((s.resolveAll requests).1.map (·.1)) ∧
      ((s.resolveAll requests).1.map (·.1)).Sublist requests := by
  induction requests generalizing s with
  | nil => simp [resolveAll]
  | cons r rest ih =>
    obtain ⟨hknown, hasked⟩ := ih (resolve_cases h r).1
    simp only [resolveAll]
    split
    · refine ⟨?_, hasked.cons_cons r⟩
      simp only [List.filter_cons, List.map_cons]
      split
      · exact hknown.cons_cons r
      · exact hknown.cons r
    · rename_i e he
      refine ⟨?_, hasked.cons r⟩
      rw [List.filter_cons_of_neg]
      · exact hknown
      · intro hk
        obtain ⟨kind, hk⟩ := Option.isSome_iff_exists.mp hk
        obtain ⟨id, hid⟩ := resolve_isOk h hk
        rw [he] at hid
        cases hid

end Session

namespace Shared

variable {w : Shared}

theorem empty_serves : empty.store.Serves empty.caches := Store.Serves.empty

theorem answering_sound (h : w.store.Serves w.caches) (k : Nat) (requests : List SeriesRequest) :
    (w.answering k requests).2.Within w.store (w.caches k) ∧
      ∀ a ∈ (w.answering k requests).1,
        (w.answering k requests).2.store.IsSeries a.1.name a.1.labels.toFinset a.2 := by
  have hs := Session.Within.start h.wellFormed (h.settled k)
  obtain ⟨hend, -, hall⟩ := Session.resolveAll_sound requests hs
  exact ⟨hend, hall⟩

theorem step_sound (h : w.store.Serves w.caches) (t : Move) :
    (w.step t).store.Serves (w.step t).caches ∧ w.store.Extends (w.step t).store ∧
      ∀ a ∈ w.committed t, (w.step t).store.IsSeries a.1.name a.1.labels.toFinset a.2 := by
  cases t with
  | clear k =>
    exact ⟨h.update h.wellFormed (.refl _) k (SeriesCache.empty_settled _), .refl _,
      by simp [committed]⟩
  | transaction k requests commits =>
    obtain ⟨hs, hall⟩ := answering_sound h k requests
    cases commits with
    | true => exact ⟨h.update hs.wellFormed hs.grown k hs.commit_settled, hs.grown, hall⟩
    | false =>
      refine ⟨h.update h.wellFormed (.refl _) k ?_, .refl _, by simp [committed]⟩
      rw [hs.rollback]
      exact h.settled k

/-- An answer once committed stays right to the end of the run. -/
theorem run_sound (moves : List Move) (h : w.store.Serves w.caches) :
    (w.run moves).store.Serves (w.run moves).caches ∧ w.store.Extends (w.run moves).store ∧
      ∀ a ∈ w.answers moves, (w.run moves).store.IsSeries a.1.name a.1.labels.toFinset a.2 := by
  induction moves generalizing w with
  | nil => exact ⟨h, .refl _, by simp [answers]⟩
  | cons t rest ih =>
    obtain ⟨h₁, g₁, hall₁⟩ := step_sound h t
    obtain ⟨h₂, g₂, hall₂⟩ := ih h₁
    refine ⟨h₂, g₁.trans g₂, ?_⟩
    intro a ha
    rcases List.mem_append.mp ha with ha | ha
    · exact (hall₁ a ha).mono h₁.wellFormed g₂
    · exact hall₂ a ha

theorem committed_requests (h : w.store.Serves w.caches) (t : Move) :
    (t.asked.filter fun r => (MetricKind.ofName? r.kind).isSome).Sublist
        ((w.committed t).map (·.1)) ∧
      ((w.committed t).map (·.1)).Sublist t.asked := by
  cases t with
  | clear k => simp [committed, Move.asked]
  | transaction k requests commits =>
    cases commits with
    | false => simp [committed, Move.asked]
    | true => exact Session.resolveAll_answers requests (.start h.wellFormed (h.settled k))

theorem answers_requests (moves : List Move) (h : w.store.Serves w.caches) :
    ((moves.flatMap Move.asked).filter fun r => (MetricKind.ofName? r.kind).isSome).Sublist
        ((w.answers moves).map (·.1)) ∧
      ((w.answers moves).map (·.1)).Sublist (moves.flatMap Move.asked) := by
  induction moves generalizing w with
  | nil => simp [answers]
  | cons t rest ih =>
    obtain ⟨hknown, hasked⟩ := ih (step_sound h t).1
    obtain ⟨hk, ha⟩ := committed_requests h t
    simp only [List.flatMap_cons, List.filter_append, answers, List.map_append]
    exact ⟨hk.append hknown, ha.append hasked⟩

/-- The identifiers that committed transactions gave stand for metrics with sets of label pairs. -/
theorem answers_eq_iff (moves : List Move) :
    (empty.answers moves).Pairwise (fun a b =>
        a.2 = b.2 ↔ a.1.name = b.1.name ∧ a.1.labels.toFinset = b.1.labels.toFinset) ∧
      ((moves.flatMap Move.asked).filter fun r => (MetricKind.ofName? r.kind).isSome).Sublist
        ((empty.answers moves).map (·.1)) ∧
      ((empty.answers moves).map (·.1)).Sublist (moves.flatMap Move.asked) := by
  refine ⟨List.pairwise_of_forall_mem_list ?_, answers_requests moves empty_serves⟩
  intro a ha b hb
  obtain ⟨hw, -, hall⟩ := run_sound moves empty_serves
  exact hw.wellFormed.series_eq_iff (hall a ha) (hall b hb)

end Shared

end MetricArchive
