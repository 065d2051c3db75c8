import Mathlib.Data.Finset.Dedup
import MetricArchive.Proofs.Store.WellFormed

/-!
# Growth of tables

A transaction only appends, and it gives no label pair to a series that was there before it. What a
table says of an identifier therefore stays true, and an identifier stands for one metric and one
set of label pairs for good. Main statement: two identifiers of series are equal exactly when their
metrics and their sets of label pairs are.
-/
namespace MetricArchive.Store

/-- The second store is the first with rows appended. -/
structure Extends (s t : Store) : Prop where
  metrics : s.metrics <+: t.metrics
  labels : s.labels <+: t.labels
  series : s.series <+: t.series
  members : ∃ rows, t.members = s.members ++ rows ∧ ∀ r ∈ rows, s.counters.series < r.seriesId
  points : s.points <+: t.points
  counter : s.counters.series ≤ t.counters.series

def IsSeries (s : Store) (name : String) (labels : Finset (String × String)) (id : Nat) : Prop :=
  ∃ metricId labelIds, s.HasMetric name metricId ∧ s.HasSeries metricId labelIds id ∧
    (∀ l ∈ labelIds, ∃ p ∈ labels, s.HasLabel p.1 p.2 l) ∧
    ∀ p ∈ labels, ∃ l ∈ labelIds, s.HasLabel p.1 p.2 l

variable {s t u : Store}

namespace Extends

theorem refl (s : Store) : s.Extends s where
  metrics := List.prefix_rfl
  labels := List.prefix_rfl
  series := List.prefix_rfl
  members := ⟨[], by simp⟩
  points := List.prefix_rfl
  counter := Nat.le_refl _

theorem trans (h : s.Extends t) (g : t.Extends u) : s.Extends u where
  metrics := h.metrics.trans g.metrics
  labels := h.labels.trans g.labels
  series := h.series.trans g.series
  members := by
    obtain ⟨xs, hx, hxs⟩ := h.members
    obtain ⟨ys, hy, hys⟩ := g.members
    refine ⟨xs ++ ys, by rw [hy, hx, List.append_assoc], ?_⟩
    intro r hr
    rcases List.mem_append.mp hr with hr | hr
    · exact hxs r hr
    · exact Nat.lt_of_le_of_lt h.counter (hys r hr)
  points := h.points.trans g.points
  counter := Nat.le_trans h.counter g.counter

theorem members_old (h : s.Extends t) {l id : Nat} (hid : id ≤ s.counters.series) :
    ⟨l, id⟩ ∈ t.members ↔ ⟨l, id⟩ ∈ s.members := by
  obtain ⟨rows, he, hnew⟩ := h.members
  rw [he, List.mem_append]
  refine or_iff_left fun hr => ?_
  have hlt := hnew _ hr
  simp only at hlt
  omega

end Extends

theorem addMetric_extends (s : Store) (name kind help : String) :
    s.Extends (s.addMetric name kind help).2 :=
  { Extends.refl s with metrics := List.prefix_append _ _ }

theorem addLabel_extends (s : Store) (label value : String) :
    s.Extends (s.addLabel label value).2 :=
  { Extends.refl s with labels := List.prefix_append _ _ }

theorem withSeries_extends (s : Store) (metricId : Nat) (labelIds : List Nat) :
    s.Extends (s.withSeries metricId labelIds) := by
  refine { Extends.refl s with
    series := List.prefix_append _ _
    members := ⟨labelIds.map (⟨·, s.counters.series + 1⟩), rfl, ?_⟩
    counter := Nat.le_succ _ }
  intro r hr
  obtain ⟨l, -, rfl⟩ := List.mem_map.mp hr
  exact Nat.lt_succ_self _

theorem addPoints_extends (s : Store) (rows : List PointRow) :
    s.Extends { s with points := s.points ++ rows } :=
  { Extends.refl s with points := List.prefix_append _ _ }

theorem HasMetric.mono {name : String} {id : Nat} (h : s.HasMetric name id) (g : s.Extends t) :
    t.HasMetric name id := by
  obtain ⟨r, hr, he⟩ := h
  exact ⟨r, g.metrics.subset hr, he⟩

theorem HasLabel.mono {label value : String} {id : Nat} (h : s.HasLabel label value id)
    (g : s.Extends t) : t.HasLabel label value id :=
  g.labels.subset h

theorem HasSeries.mono {metricId id : Nat} {labelIds : List Nat}
    (h : s.HasSeries metricId labelIds id) (hs : s.WellFormed) (g : s.Extends t) :
    t.HasSeries metricId labelIds id := by
  refine ⟨g.series.subset h.1, fun l => ?_⟩
  rw [g.members_old (hs.seriesBound _ h.1)]
  exact h.2 l

theorem IsSeries.mono {name : String} {labels : Finset (String × String)} {id : Nat}
    (h : s.IsSeries name labels id) (hs : s.WellFormed) (g : s.Extends t) :
    t.IsSeries name labels id := by
  obtain ⟨metricId, labelIds, hm, hx, hto, hfrom⟩ := h
  refine ⟨metricId, labelIds, hm.mono g, hx.mono hs g, ?_, ?_⟩
  · intro l hl
    obtain ⟨p, hp, hpl⟩ := hto l hl
    exact ⟨p, hp, hpl.mono g⟩
  · intro p hp
    obtain ⟨l, hl, hpl⟩ := hfrom p hp
    exact ⟨l, hl, hpl.mono g⟩

namespace WellFormed

variable {name name' : String} {labels labels' : Finset (String × String)} {i j : Nat}

private theorem labels_subset (h : s.WellFormed) {ids ids' : List Nat}
    (hfrom : ∀ p ∈ labels, ∃ l ∈ ids, s.HasLabel p.1 p.2 l) (hsub : ∀ l ∈ ids, l ∈ ids')
    (hto : ∀ l ∈ ids', ∃ p ∈ labels', s.HasLabel p.1 p.2 l) : labels ⊆ labels' := by
  intro p hp
  obtain ⟨l, hl, hpl⟩ := hfrom p hp
  obtain ⟨q, hq, hql⟩ := hto l (hsub l hl)
  exact h.label_id_inj hpl hql ▸ hq

private theorem ids_subset (h : s.WellFormed) {ids ids' : List Nat}
    (hto : ∀ l ∈ ids, ∃ p ∈ labels, s.HasLabel p.1 p.2 l)
    (hfrom : ∀ p ∈ labels, ∃ l ∈ ids', s.HasLabel p.1 p.2 l) : ∀ l ∈ ids, l ∈ ids' := by
  intro l hl
  obtain ⟨p, hp, hpl⟩ := hto l hl
  obtain ⟨k, hk, hpk⟩ := hfrom p hp
  exact h.label_pair_inj hpl hpk ▸ hk

/-- Two series are one exactly when metric and label pairs agree. -/
theorem series_eq_iff (h : s.WellFormed) (hi : s.IsSeries name labels i)
    (hj : s.IsSeries name' labels' j) : i = j ↔ name = name' ∧ labels = labels' := by
  obtain ⟨m, ids, hm, ⟨hr, hids⟩, hto, hfrom⟩ := hi
  obtain ⟨m', ids', hm', ⟨hr', hids'⟩, hto', hfrom'⟩ := hj
  constructor
  · rintro rfl
    have hrow := h.series_id_inj hr hr' rfl
    simp only [SeriesRow.mk.injEq, true_and] at hrow
    subst hrow
    have hsame : ∀ l, l ∈ ids ↔ l ∈ ids' := fun l => (hids l).trans (hids' l).symm
    refine ⟨h.metric_id_inj hm hm', Finset.Subset.antisymm ?_ ?_⟩
    · exact labels_subset h hfrom (fun l => (hsame l).mp) hto'
    · exact labels_subset h hfrom' (fun l => (hsame l).mpr) hto
  · rintro ⟨rfl, rfl⟩
    have he := h.metric_name_inj hm hm'
    subst he
    have hsame : ∀ l, l ∈ ids ↔ l ∈ ids' :=
      fun l => ⟨ids_subset h hto hfrom' l, ids_subset h hto' hfrom l⟩
    have hrow := h.seriesLabels _ hr _ hr' rfl
      fun l => (hids l).symm.trans ((hsame l).trans (hids' l))
    exact congrArg SeriesRow.id hrow

end WellFormed

end MetricArchive.Store
