import MetricArchive.Proofs.Store.Archive

/-!
# The first sight of a metric

A metric gets its row from the first sample of its name, with kind and help text of the family that
the sample came in. One scrape can hold a name in two families, and a transaction that fails takes
its rows back, so what counts is the order of the samples that are committed. Main statement: after
any run the rows of metrics are the first sights of their names, and rows stay as they are for good.
-/
namespace MetricArchive

def Scrape.sights (s : Scrape) : List (MetricFamily × Sample) :=
  s.families.flatMap fun f => f.samples.map fun p => (f, p)

namespace Store

/-- The metrics are those seen, in the order of their first sights, and described as seen there. -/
structure Credits (s : Store) (seen : List (MetricFamily × Sample)) : Prop where
  names : s.metrics.map (·.name) = (seen.map (·.2.name)).eraseDups
  first : ∀ r ∈ s.metrics, ∃ f p, seen.find? (·.2.name == r.name) = some (f, p) ∧
    r.kind = f.kind.name ∧ r.help = f.help

section Added

variable {s t : Store}

theorem addSeries?_metrics {metricId id : Nat} {labelIds : List Nat}
    (h : s.addSeries? metricId labelIds = some (id, t)) : t.metrics = s.metrics := by
  unfold addSeries? at h
  split at h
  · cases h
    rfl
  · cases h

theorem addPoints?_metrics {points : List NewPoint} (h : s.addPoints? points = some t) :
    t.metrics = s.metrics := by
  unfold addPoints? at h
  split at h
  · cases h
    rfl
  · cases h

end Added

theorem empty_credits : empty.Credits [] where
  names := rfl
  first := nofun

namespace Credits

variable {s t : Store} {seen : List (MetricFamily × Sample)} {q : MetricFamily × Sample}

theorem congr (h : s.Credits seen) (ht : t.metrics = s.metrics) : t.Credits seen where
  names := ht ▸ h.names
  first := ht ▸ h.first

theorem mem_iff (h : s.Credits seen) {name : String} :
    (∃ r ∈ s.metrics, r.name = name) ↔ name ∈ seen.map (·.2.name) := by
  rw [← List.mem_eraseDups, ← h.names, List.mem_map]

/-- What was seen first stays first. -/
theorem first_append (h : s.Credits seen) (q : MetricFamily × Sample) {r : MetricRow}
    (hr : r ∈ s.metrics) : ∃ f p, (seen ++ [q]).find? (·.2.name == r.name) = some (f, p) ∧
      r.kind = f.kind.name ∧ r.help = f.help := by
  obtain ⟨f, p, hfind, hrow⟩ := h.first r hr
  exact ⟨f, p, by rw [List.find?_append, hfind, Option.some_or], hrow⟩

/-- A metric that is there is seen once more. -/
theorem again (h : s.Credits seen) (hq : ∃ r ∈ s.metrics, r.name = q.2.name) :
    s.Credits (seen ++ [q]) where
  names := by
    have hseen := h.mem_iff.mp hq
    rw [h.names, List.map_append, List.eraseDups_append, List.map_singleton, List.removeAll,
      List.filter_singleton]
    simp [hseen]
  first _ := h.first_append q

/-- A metric is seen for the first time. -/
theorem new (h : s.Credits seen) (hq : ∀ r ∈ s.metrics, r.name ≠ q.2.name) :
    (s.addMetric q.2.name q.1.kind.name q.1.help).2.Credits (seen ++ [q]) where
  names := by
    have hnew : q.2.name ∉ seen.map (·.2.name) := by
      rw [← h.mem_iff]
      rintro ⟨r, hr, hname⟩
      exact hq r hr hname
    rw [addMetric, List.map_append, h.names, List.map_append, List.eraseDups_append,
      List.map_singleton, List.map_singleton, List.removeAll, List.filter_singleton]
    simp [hnew, List.eraseDups_cons]
  first r hr := by
    rcases List.mem_append.mp hr with hr | hr
    · exact h.first_append q hr
    · obtain rfl := List.mem_singleton.mp hr
      have hnone : seen.find? (·.2.name == q.2.name) = none := by
        rw [List.find?_eq_none]
        intro p hp hname
        obtain ⟨r, hr, heq⟩ := h.mem_iff.mpr (List.mem_map_of_mem hp)
        exact hq r hr (heq.trans (beq_iff_eq.mp hname))
      refine ⟨q.1, q.2, ?_, rfl, rfl⟩
      simp [List.find?_append, hnone]

end Credits

end Store

open Store

def asked (q : MetricFamily × Sample) : SeriesRequest × Sample :=
  (⟨q.2.name, q.1.kind.name, q.1.help, q.2.labels⟩, q.2)

theorem Writer.requests_eq (s : Scrape) : requests s = s.sights.map asked := by
  simp [requests, Scrape.sights, List.map_flatMap, Function.comp_def, asked]

namespace Session

variable {base : Store} {c : SeriesCache} {s : Session} {seen : List (MetricFamily × Sample)}

theorem resolveLabels_metrics (s : Session) (labels : Labels) :
    (s.resolveLabels labels).2.store.metrics = s.store.metrics := by
  induction labels generalizing s with
  | nil => rfl
  | cons l rest ih =>
    have hlabel : (s.resolveLabel l.1 l.2).2.store.metrics = s.store.metrics := by
      unfold resolveLabel
      split
      · rfl
      · cases s.store.labelId? l.1 l.2 <;> rfl
    exact (ih _).trans hlabel

theorem resolveSeries_metrics (s : Session) (r : SeriesRequest) (metricId : Nat)
    (labelIds : List Nat) :
    (s.resolveSeries r metricId labelIds).2.store.metrics = s.store.metrics := by
  unfold resolveSeries
  cases s.cache.series.get? (metricId, labelIds) with
  | some id => rfl
  | none =>
    cases s.store.seriesId? metricId labelIds with
    | some id => rfl
    | none =>
      cases hadd : s.store.addSeries? metricId labelIds with
      | none => rfl
      | some added => exact addSeries?_metrics hadd

/-- A metric that is in the cache or in the tables was seen before, and any other is new. -/
theorem resolveMetric_credits (h : s.Within base c) (hs : s.store.Credits seen)
    (q : MetricFamily × Sample) : (s.resolveMetric (asked q).1).2.store.Credits (seen ++ [q]) := by
  have hknown : ∀ id, s.store.HasMetric q.2.name id → s.store.Credits (seen ++ [q]) := by
    rintro id ⟨r, hr, hname, -⟩
    exact hs.again ⟨r, hr, hname⟩
  unfold resolveMetric
  split
  · rename_i id hid
    exact hknown id (h.hasMetric hid)
  · split
    · rename_i id hid
      exact hknown id (hasMetric_of_metricId? hid)
    · rename_i hnone
      rw [if_neg (by simp [asked, MetricKind.ofName?_name])]
      exact hs.new (ne_name_of_metricId? hnone)

theorem resolve_credits (h : s.Within base c) (hs : s.store.Credits seen)
    (q : MetricFamily × Sample) : (s.resolve (asked q).1).2.store.Credits (seen ++ [q]) := by
  have hmetric := resolveMetric_credits h hs q
  rw [resolve_eq]
  rcases hr : s.resolveMetric (asked q).1 with ⟨e | metricId, s₁⟩
  · rwa [hr] at hmetric
  · rw [hr] at hmetric
    exact hmetric.congr ((resolveSeries_metrics ..).trans (resolveLabels_metrics ..))

end Session

namespace Writer

variable {base store : Store} {c : SeriesCache} {w : Writer} {s : Scrape}
  {seen : List (MetricFamily × Sample)}

theorem draft_credits (d : Disruption) (s : Scrape) {sights : List (MetricFamily × Sample)}
    {t : Draft} (h : t.session.Within base c) (ht : t.session.store.Credits seen)
    (hnone : (draft d s t (sights.map asked)).1 = none) :
    (draft d s t (sights.map asked)).2.session.store.Credits (seen ++ sights) := by
  induction sights generalizing t seen with
  | nil => simpa [draft] using ht
  | cons q rest ih =>
    obtain ⟨hw, -, -⟩ := Session.resolve_cases h (asked q).1
    have hseen := Session.resolve_credits h ht q
    rw [List.map_cons] at hnone ⊢
    unfold draft at hnone ⊢
    cases hd : d.resolve t.calls with
    | some failure => simp [hd] at hnone
    | none =>
      simp only [hd] at hnone ⊢
      generalize t.session.resolve (asked q).1 = answered at hw hseen hnone ⊢
      obtain ⟨failure | id, session⟩ := answered
      · cases hnone
      · rw [List.append_cons]
        exact ih hw hseen hnone

theorem finish_metrics {d : Disruption} {t : Draft} {committed : Store}
    (h : finish d (none, t) = .ok committed) : committed.metrics = t.session.store.metrics := by
  unfold finish at h
  simp only at h
  split at h
  · split at h
    · cases h
    · cases h
      rfl
  · split at h
    · cases h
    · cases h
    · cases h
    · rename_i hadd _
      cases h
      exact addPoints?_metrics hadd

theorem transact_credits (d : Disruption) (hb : store.WellFormed) (hc : w.cache.Settled store)
    (hs : store.Credits seen) {committed : Store}
    (h : (transact d store w s).1 = .ok committed) : committed.Credits (seen ++ s.sights) := by
  have hdrafted := @draft_credits store w.cache seen d s s.sights (opened store w)
    (.start hb hc) hs
  rw [transact_eq, requests_eq] at h
  generalize draft d s (opened store w) (s.sights.map asked) = drafted at h hdrafted
  obtain ⟨_ | failure, t⟩ := drafted
  · exact (hdrafted rfl).congr (finish_metrics h)
  · cases h

/-- A write that takes effect adds the first sights of its scrape, and any other leaves nothing. -/
theorem write_credits (d : Disruption) (hb : store.WellFormed) (hc : w.cache.Settled store)
    (hs : store.Credits seen) :
    (Kept store w s (write d store w s) ∧
      (write d store w s).store.Credits (seen ++ s.sights)) ∨
    ∃ failure, Lost failure store w s (write d store w s) := by
  cases h : (transact d store w s).1 with
  | ok committed =>
    refine .inl ⟨write_kept hb hc h, ?_⟩
    rw [write_store h]
    exact transact_credits d hb hc hs h
  | error failure => exact .inr ⟨failure, write_lost hb hc h⟩

end Writer

namespace Archive

variable {a : Archive} {observed : List Observation} {seen : List (MetricFamily × Sample)}

theorem Holds.grown_step (h : a.Holds observed) (m : Move) : a.store.Extends (a.step m).store := by
  cases m with
  | write k attempt s =>
    exact (attempt.outcome_grown s h.serves.wellFormed (h.serves.settled k)).2
  | reopen k => exact .refl _
  | clear k => exact .refl _

theorem Holds.grown_run (h : a.Holds observed) (moves : List Move) :
    a.store.Extends (a.run moves).store := by
  induction moves generalizing a observed with
  | nil => exact .refl _
  | cons m rest ih => exact (h.grown_step m).trans (ih (h.step m))

theorem Holds.credits_step (h : a.Holds observed) (hs : a.store.Credits seen) (m : Move) :
    (a.step m).store.Credits (seen ++ (a.committed m).flatMap Scrape.sights) := by
  cases m with
  | reopen k => simpa [committed, Archive.step] using hs
  | clear k => simpa [committed, Archive.step] using hs
  | write k attempt s =>
    have hc := h.serves.settled k
    have hlost : ∀ failure, Writer.Lost failure a.store (a.writers k) s
        (attempt.outcome a.store (a.writers k) s) →
        (a.step (.write k attempt s)).store.Credits
          (seen ++ (a.committed (.write k attempt s)).flatMap Scrape.sights) := by
      intro failure ho
      simpa [committed_lost ho, Archive.step, ho.store] using hs
    cases attempt with
    | disrupted d =>
      rcases Writer.write_credits d h.serves.wellFormed hc hs with ⟨ho, hseen⟩ | ⟨failure, ho⟩
      · have hcommitted : a.committed (.write k (.disrupted d) s) = [s] := committed_kept ho
        simpa [hcommitted, Archive.step, Attempt.outcome] using hseen
      · exact hlost failure ho
    | brokenOff failure calls pairs =>
      exact hlost failure (Writer.breakOff_lost failure calls pairs s h.serves.wellFormed hc)

theorem Holds.credits_run (h : a.Holds observed) (hs : a.store.Credits seen) (moves : List Move) :
    (a.run moves).store.Credits (seen ++ (a.written moves).flatMap Scrape.sights) := by
  induction moves generalizing a observed seen with
  | nil => simpa [Archive.run, written] using hs
  | cons m rest ih =>
    have hrest := ih (h.step m) (h.credits_step hs m)
    simpa [Archive.run, written, List.append_assoc] using hrest

/-- Rows are only ever appended, and a metric is described for good as it was at its first sight
among the samples that were committed. -/
theorem run_credits (moves : List Move) :
    (∀ more, (empty.run moves).store.Extends ((empty.run moves).run more).store) ∧
      (empty.run moves).store.Credits ((empty.written moves).flatMap Scrape.sights) :=
  ⟨(empty_holds.run moves).grown_run, empty_holds.credits_run empty_credits moves⟩

/-! A name is seen first in a write that is rolled back, then in two families of one scrape, and
last by another writer. -/

def tasks (kind : MetricKind) (help : String) : MetricFamily :=
  ⟨"tasks", kind, help, [⟨"tasks_count", [], .finite false 1 0, none⟩]⟩

def disputed : List Move :=
  [.write 0 (.disrupted { Disruption.none with commit := some .operational })
      ⟨.utc 0, [tasks .histogram "lost"], "a"⟩,
    .write 0 (.disrupted .none) ⟨.utc 0, [tasks .summary "first",
      ⟨"tasks_count", .counter, "second", [⟨"tasks_count", [], .finite false 1 0, none⟩]⟩], "a"⟩,
    .write 1 (.disrupted .none) ⟨.utc 0, [tasks .histogram "last"], "b"⟩]

theorem run_credits_disputed :
    (empty.run disputed).store.metrics = [⟨1, "tasks_count", "summary", "first"⟩] ∧
      (empty.run disputed).store.Credits ((empty.written disputed).flatMap Scrape.sights) ∧
      ((empty.written disputed).flatMap Scrape.sights).length = 3 :=
  ⟨by decide, (run_credits disputed).2, by decide⟩

end Archive

end MetricArchive
