import Mathlib.Logic.Function.Basic
import MetricArchive.Proofs.Store.Growth
import MetricArchive.Store.Resolve

/-!
# What caches remember

A cache speaks true of a store when each of its entries names a row that the store has. Writers that
share a store keep a settled cache between transactions: nothing is staged, and what is committed
is true. Rows only get appended, so a settled cache stays settled while other writers commit.
-/
namespace MetricArchive

namespace Entries

variable {κ ν : Type} [DecidableEq κ] {e : Entries κ ν} {k : κ} {v : ν}

theorem mem_of_get? (h : e.get? k = some v) : (k, v) ∈ e := by
  obtain ⟨p, hp, rfl⟩ := Option.map_eq_some_iff.mp h
  have hk : p.1 = k := by simpa using List.find?_some hp
  exact hk ▸ List.mem_of_find?_eq_some hp

theorem mem_put {p : κ × ν} (h : p ∈ e.put k v) : p ∈ e ∨ p = (k, v) := by
  unfold put at h
  split at h
  · obtain ⟨q, hq, rfl⟩ := List.mem_map.mp h
    split
    · exact .inr rfl
    · exact .inl hq
  · simpa using h

end Entries

namespace StagedCache

variable {κ ν : Type} [DecidableEq κ] {c : StagedCache κ ν} {k : κ} {v : ν}

theorem mem_of_get? (h : c.get? k = some v) : (k, v) ∈ c.staged ∨ (k, v) ∈ c.committed := by
  rcases Option.or_eq_some_iff.mp h with h | ⟨-, h⟩
  · exact .inl (Entries.mem_of_get? h)
  · exact .inr (Entries.mem_of_get? h)

theorem mem_stage {p : κ × ν} (h : p ∈ (c.stage k v).staged) : p ∈ c.staged ∨ p = (k, v) :=
  Entries.mem_put h

theorem mem_commit {p : κ × ν} (h : p ∈ c.commit.committed) : p ∈ c.committed ∨ p ∈ c.staged := by
  have hfold : ∀ (l e : Entries κ ν), p ∈ l.foldl (fun e q => e.put q.1 q.2) e → p ∈ e ∨ p ∈ l := by
    intro l
    induction l with
    | nil => exact fun e he => .inl he
    | cons q l ih =>
      intro e he
      rcases ih (e.put q.1 q.2) he with he | he
      · rcases Entries.mem_put he with he | rfl
        · exact .inl he
        · exact .inr List.mem_cons_self
      · exact .inr (List.mem_cons_of_mem _ he)
  exact hfold c.staged c.committed h

end StagedCache

structure Store.Backs (s : Store) (metrics : Entries String Nat)
    (labels : Entries (String × String) Nat) (series : Entries (Nat × List Nat) Nat) : Prop where
  metric : ∀ name id, (name, id) ∈ metrics → s.HasMetric name id
  label : ∀ label value id, ((label, value), id) ∈ labels → s.HasLabel label value id
  series : ∀ metricId labelIds id, ((metricId, labelIds), id) ∈ series →
    s.HasSeries metricId labelIds id

theorem Store.Backs.mono {s t : Store} {metrics : Entries String Nat}
    {labels : Entries (String × String) Nat} {series : Entries (Nat × List Nat) Nat}
    (h : s.Backs metrics labels series) (hs : s.WellFormed) (g : s.Extends t) :
    t.Backs metrics labels series where
  metric name id hm := (h.metric name id hm).mono g
  label l v id hm := (h.label l v id hm).mono g
  series m ids id hm := (h.series m ids id hm).mono hs g

namespace SeriesCache

def KeptTrue (c : SeriesCache) (s : Store) : Prop :=
  s.Backs c.metrics.committed c.labels.committed c.series.committed

def StagedTrue (c : SeriesCache) (s : Store) : Prop :=
  s.Backs c.metrics.staged c.labels.staged c.series.staged

structure NothingStaged (c : SeriesCache) : Prop where
  metrics : c.metrics.staged = []
  labels : c.labels.staged = []
  series : c.series.staged = []

/-- The cache of a writer between transactions. -/
structure Settled (c : SeriesCache) (s : Store) : Prop where
  kept : c.KeptTrue s
  idle : c.rollback = c

variable {c : SeriesCache} {s t : Store}

theorem empty_settled (s : Store) : empty.Settled s where
  kept := by constructor <;> intros <;> contradiction
  idle := rfl

theorem Settled.mono (h : c.Settled s) (hs : s.WellFormed) (g : s.Extends t) : c.Settled t where
  kept := h.kept.mono hs g
  idle := h.idle

theorem Settled.nothingStaged (h : c.Settled s) : c.NothingStaged := by
  rw [← h.idle]
  exact ⟨rfl, rfl, rfl⟩

theorem Settled.stagedTrue (h : c.Settled s) : c.StagedTrue s := by
  unfold StagedTrue
  rw [← h.idle]
  constructor <;> intros <;> contradiction

theorem commit_settled (hk : c.KeptTrue s) (hs : c.StagedTrue s) : c.commit.Settled s where
  kept :=
    { metric := fun name id hm => (StagedCache.mem_commit hm).elim (hk.metric name id)
        (hs.metric name id)
      label := fun l v id hm => (StagedCache.mem_commit hm).elim (hk.label l v id) (hs.label l v id)
      series := fun m ids id hm => (StagedCache.mem_commit hm).elim (hk.series m ids id)
        (hs.series m ids id) }
  idle := rfl

end SeriesCache

structure Store.Serves (s : Store) (caches : Nat → SeriesCache) : Prop where
  wellFormed : s.WellFormed
  settled : ∀ k, (caches k).Settled s

namespace Store.Serves

variable {s t : Store} {caches : Nat → SeriesCache}

theorem empty : Store.empty.Serves fun _ => .empty where
  wellFormed := empty_wellFormed
  settled _ := SeriesCache.empty_settled _

/-- One cache changes while the store grows. -/
theorem update (h : s.Serves caches) (ht : t.WellFormed) (g : s.Extends t) (k : Nat)
    {c : SeriesCache} (hc : c.Settled t) : t.Serves (Function.update caches k c) where
  wellFormed := ht
  settled j := by
    by_cases hj : j = k
    · subst hj
      simpa using hc
    · simpa [Function.update_of_ne hj] using (h.settled j).mono h.wellFormed g

end Store.Serves

end MetricArchive
