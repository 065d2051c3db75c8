import Mathlib.Data.Finset.Sort
import MetricArchive.Proofs.Store.Resolution

/-!
# Looking up a series by counting

No look-up compares sets. It counts the label pairs of a series, and those of them that are among
the given ones, and asks that both numbers be that of the given ones. Main statement: as long as no
membership is listed twice this finds the least series of the metric whose label pairs are the given
set, and nothing exactly if there is no such series. Neither the metric nor the label pairs need to
exist.
-/
namespace MetricArchive

namespace Store

variable {s : Store}

def memberSet (s : Store) (id : Nat) : Finset Nat := (s.memberIds id).toFinset

theorem mem_memberSet {l id : Nat} : l ∈ s.memberSet id ↔ ⟨l, id⟩ ∈ s.members := by
  rw [memberSet, List.mem_toFinset, mem_memberIds]

theorem hasSeries_sort_iff {metricId id : Nat} {labelIds : Finset Nat} :
    s.HasSeries metricId labelIds.sort id ↔
      ⟨id, metricId⟩ ∈ s.series ∧ s.memberSet id = labelIds := by
  simp only [HasSeries, Finset.mem_sort, Finset.ext_iff, mem_memberSet]
  exact and_congr_right fun _ => forall_congr' fun _ => Iff.comm

/-- The look-up finds the least series of the metric that has the given label pairs and no others,
and nothing exactly if no series of the metric has. -/
theorem seriesId?_isLeast (h : s.members.Nodup) (metricId : Nat) (labelIds : Finset Nat) :
    (∀ id, s.seriesId? metricId labelIds.sort = some id ↔
      IsLeast {i | ⟨i, metricId⟩ ∈ s.series ∧ s.memberSet i = labelIds} id) ∧
    (s.seriesId? metricId labelIds.sort = none ↔
      ∀ i, ⟨i, metricId⟩ ∈ s.series → s.memberSet i ≠ labelIds) := by
  have hl : labelIds.sort.Nodup := labelIds.sort_nodup _
  constructor
  · intro id
    simp only [seriesId?_eq_some_iff h hl, hasSeries_sort_iff]
  · simp only [seriesId?_eq_none_iff h hl, hasSeries_sort_iff, not_and, ne_eq]

/-- Series 2 lacks a label pair of series 3 and 4, series 5 has one more, and series 1 has the same
under another metric. -/
def overlapping : Store :=
  { empty with
    series := [⟨4, 1⟩, ⟨1, 2⟩, ⟨2, 1⟩, ⟨3, 1⟩, ⟨5, 1⟩, ⟨6, 1⟩]
    members := [⟨1, 1⟩, ⟨2, 1⟩, ⟨1, 2⟩, ⟨1, 3⟩, ⟨2, 3⟩, ⟨2, 4⟩, ⟨1, 4⟩, ⟨1, 5⟩, ⟨2, 5⟩, ⟨3, 5⟩] }

theorem seriesId?_isLeast_overlapping :
    overlapping.members.Nodup ∧
      overlapping.seriesId? 1 (Finset.sort {1, 2}) = some 3 ∧
      overlapping.seriesId? 1 (Finset.sort ∅) = some 6 ∧
      overlapping.seriesId? 1 (Finset.sort {1, 9}) = none := by
  have hn : overlapping.members.Nodup := by decide
  have hpair : ∀ r ∈ overlapping.series, r.metricId = 1 → overlapping.memberSet r.id = {1, 2} →
      3 ≤ r.id := by decide
  have hempty : ∀ r ∈ overlapping.series, r.metricId = 1 → overlapping.memberSet r.id = ∅ →
      6 ≤ r.id := by decide
  have habsent : ∀ r ∈ overlapping.series, overlapping.memberSet r.id ≠ {1, 9} := by decide
  refine ⟨hn, ?_, ?_, ?_⟩
  · apply ((seriesId?_isLeast hn 1 {1, 2}).1 3).mpr
    exact ⟨⟨by decide, by decide⟩, fun i hi => hpair _ hi.1 rfl hi.2⟩
  · apply ((seriesId?_isLeast hn 1 ∅).1 6).mpr
    exact ⟨⟨by decide, by decide⟩, fun i hi => hempty _ hi.1 rfl hi.2⟩
  · exact (seriesId?_isLeast hn 1 {1, 9}).2.mpr fun i hi => habsent _ hi

/-- A membership that is listed twice counts twice, and its series is not found. -/
example :
    { empty with series := [⟨1, 1⟩], members := [⟨1, 1⟩, ⟨1, 1⟩] : Store }.seriesId? 1 [1] = none := by
  decide

/-- For no label pairs the first number alone decides. -/
theorem seriesId?_nil (s : Store) (metricId : Nat) :
    s.seriesId? metricId [] =
      ((s.series.filter fun r => r.metricId == metricId && s.memberCount r.id == 0).map
        (·.id)).min? := by
  simp [seriesId?, matchCount]

end Store

namespace Session

theorem resolveLabels_ascending (s : Session) (labels : Labels) :
    (s.resolveLabels labels).1.Pairwise (· < ·) := by
  induction labels generalizing s with
  | nil => exact .nil
  | cons p labels ih => exact insertId_ascending (ih _)

/-- Requests look up sets of label pairs, in ascending order. -/
theorem resolveLabels_eq_sort (s : Session) (labels : Labels) :
    (s.resolveLabels labels).1 = (s.resolveLabels labels).1.toFinset.sort := by
  have hasc := s.resolveLabels_ascending labels
  have hnodup : (s.resolveLabels labels).1.Nodup := hasc.imp Nat.ne_of_lt
  exact ((List.toFinset_sort _ hnodup).mpr (hasc.imp Nat.le_of_lt)).symm

end Session

end MetricArchive
