import Mathlib.Data.List.Forall2
import MetricArchive.Proofs.Store.Growth
import MetricArchive.Scrape

/-!
# Reading a store back

The points of a store in the order of their identifiers, each joined through its series to the name
of the metric and to the label pairs. The joins are inner ones, so a reference that named no row
would lose a point and one that named two would double it. Main statement: from well-formed tables
each point is read back once, as the sample that its series was resolved for.
-/
namespace MetricArchive

/-- A point as it is read back: what it says and no identifiers. -/
structure Observation where
  metric : String
  labels : Finset (String × String)
  timestamp : Int
  value : Option Binary64
  deriving DecidableEq

namespace Store

def labelPairs (s : Store) (seriesId : Nat) : Finset (String × String) :=
  ((s.members.filter (·.seriesId == seriesId)).flatMap fun m =>
    (s.labels.filter (·.id == m.labelId)).map fun l => (l.label, l.value)).toFinset

/-- A point joined with its series and its metric. -/
def joined (s : Store) (p : PointRow) : List Observation :=
  (s.series.filter (·.id == p.seriesId)).flatMap fun x =>
    (s.metrics.filter (·.id == x.metricId)).map fun m =>
      ⟨m.name, s.labelPairs x.id, p.timestamp, p.value⟩

def readBack (s : Store) : List Observation :=
  (s.points.mergeSort fun p q => decide (p.id ≤ q.id)).flatMap s.joined

structure Shows (s : Store) (p : PointRow) (e : Observation) : Prop where
  series : s.IsSeries e.metric e.labels p.seriesId
  timestamp : p.timestamp = e.timestamp
  value : p.value = e.value

variable {s t : Store}

theorem Shows.mono {p : PointRow} {e : Observation} (h : s.Shows p e) (hs : s.WellFormed)
    (g : s.Extends t) : t.Shows p e :=
  { h with series := h.series.mono hs g }

theorem mem_labelPairs {id : Nat} {p : String × String} :
    p ∈ s.labelPairs id ↔ ∃ l, ⟨l, id⟩ ∈ s.members ∧ s.HasLabel p.1 p.2 l := by
  simp only [labelPairs, List.mem_toFinset, List.mem_flatMap, List.mem_map, List.mem_filter,
    beq_iff_eq]
  constructor
  · rintro ⟨m, ⟨hm, rfl⟩, l, ⟨hl, he⟩, rfl⟩
    exact ⟨m.labelId, hm, he ▸ hl⟩
  · rintro ⟨l, hm, hl⟩
    exact ⟨_, ⟨hm, rfl⟩, _, ⟨hl, rfl⟩, rfl⟩

/-- Exactly one row has the identifier of a row. -/
theorem filter_eq_singleton {α : Type} {f : α → Nat} {rows : List α}
    (h : (rows.map f).Pairwise (· < ·)) {a : α} (ha : a ∈ rows) :
    rows.filter (f · == f a) = [a] := by
  induction rows with
  | nil => simp at ha
  | cons r rest ih =>
    obtain ⟨hr, hrest⟩ := List.pairwise_cons.mp h
    rcases List.mem_cons.mp ha with rfl | ha
    · rw [List.filter_cons_of_pos (by simp), List.filter_eq_nil_iff.mpr]
      intro b hb
      have hlt := hr _ (List.mem_map_of_mem hb)
      simp only [beq_iff_eq]
      omega
    · have hlt := hr _ (List.mem_map_of_mem ha)
      rw [List.filter_cons_of_neg, ih hrest ha]
      simp only [beq_iff_eq]
      omega

theorem labelPairs_eq {labels : Finset (String × String)} {metricId id : Nat}
    {labelIds : List Nat} (h : s.WellFormed) (hx : s.HasSeries metricId labelIds id)
    (hto : ∀ l ∈ labelIds, ∃ p ∈ labels, s.HasLabel p.1 p.2 l)
    (hfrom : ∀ p ∈ labels, ∃ l ∈ labelIds, s.HasLabel p.1 p.2 l) :
    s.labelPairs id = labels := by
  ext p
  rw [mem_labelPairs]
  constructor
  · rintro ⟨l, hm, hl⟩
    obtain ⟨q, hq, hql⟩ := hto l ((hx.2 l).mpr hm)
    exact h.label_id_inj hl hql ▸ hq
  · intro hp
    obtain ⟨l, hl, hpl⟩ := hfrom p hp
    exact ⟨l, (hx.2 l).mp hl, hpl⟩

theorem joined_eq (h : s.WellFormed) {p : PointRow} {e : Observation} (hp : s.Shows p e) :
    s.joined p = [e] := by
  obtain ⟨⟨metricId, labelIds, ⟨m, hm, hname, rfl⟩, hx, hto, hfrom⟩, htime, hvalue⟩ := hp
  have hseries := filter_eq_singleton h.seriesIds hx.1
  have hmetric := filter_eq_singleton h.metricIds hm
  simp only at hseries
  simp only [joined, hseries, List.flatMap_cons, List.flatMap_nil, List.append_nil, hmetric,
    List.map_cons, List.map_nil]
  rw [labelPairs_eq h hx hto hfrom, hname, htime, hvalue]

theorem flatMap_joined_eq (h : s.WellFormed) {rows : List PointRow} {seen : List Observation}
    (hp : List.Forall₂ s.Shows rows seen) : rows.flatMap s.joined = seen := by
  induction hp with
  | nil => rfl
  | cons hpe _ ih => rw [List.flatMap_cons, joined_eq h hpe, List.singleton_append, ih]

/-- Each point is read back once, in order. -/
theorem readBack_eq (h : s.WellFormed) {seen : List Observation}
    (hp : List.Forall₂ s.Shows s.points seen) : s.readBack = seen := by
  have hsorted : s.points.Pairwise fun p q => decide (p.id ≤ q.id) = true :=
    (List.pairwise_map.mp h.pointIds).imp fun hlt => by simpa using Nat.le_of_lt hlt
  rw [readBack, List.mergeSort_of_pairwise hsorted, flatMap_joined_eq h hp]

end Store

end MetricArchive
