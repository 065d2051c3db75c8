import Mathlib.Data.List.Nodup
import Mathlib.Data.List.Perm.Subperm
import Mathlib.Order.Bounds.Basic
import MetricArchive.Store.Tables

/-!
# Well-formed tables

Identifiers ascend and stay below their counters, metric names and label pairs occur once, every
reference resolves, and two series of one metric differ in their label pairs. A look-up in such
tables finds a row exactly when there is one, and adding what a look-up missed keeps the tables
well formed. The database checks only the references and the metric names.
-/
namespace MetricArchive.Store

structure WellFormed (s : Store) : Prop where
  metricIds : (s.metrics.map (·.id)).Pairwise (· < ·)
  metricBound : ∀ r ∈ s.metrics, r.id ≤ s.counters.metric
  metricNames : (s.metrics.map (·.name)).Nodup
  labelIds : (s.labels.map (·.id)).Pairwise (· < ·)
  labelBound : ∀ r ∈ s.labels, r.id ≤ s.counters.label
  labelPairs : (s.labels.map fun r => (r.label, r.value)).Nodup
  seriesIds : (s.series.map (·.id)).Pairwise (· < ·)
  seriesBound : ∀ r ∈ s.series, r.id ≤ s.counters.series
  seriesMetric : ∀ r ∈ s.series, ∃ m ∈ s.metrics, m.id = r.metricId
  seriesLabels : ∀ a ∈ s.series, ∀ b ∈ s.series, a.metricId = b.metricId →
    (∀ l, ⟨l, a.id⟩ ∈ s.members ↔ ⟨l, b.id⟩ ∈ s.members) → a = b
  membersOnce : s.members.Nodup
  memberLabel : ∀ r ∈ s.members, ∃ l ∈ s.labels, l.id = r.labelId
  memberSeries : ∀ r ∈ s.members, ∃ x ∈ s.series, x.id = r.seriesId
  pointIds : (s.points.map (·.id)).Pairwise (· < ·)
  pointSeries : ∀ p ∈ s.points, ∃ x ∈ s.series, x.id = p.seriesId

def HasMetric (s : Store) (name : String) (id : Nat) : Prop :=
  ∃ r ∈ s.metrics, r.name = name ∧ r.id = id

def HasLabel (s : Store) (label value : String) (id : Nat) : Prop := ⟨id, label, value⟩ ∈ s.labels

def HasSeries (s : Store) (metricId : Nat) (labelIds : List Nat) (id : Nat) : Prop :=
  ⟨id, metricId⟩ ∈ s.series ∧ ∀ l, l ∈ labelIds ↔ ⟨l, id⟩ ∈ s.members

variable {s : Store}

theorem empty_wellFormed : empty.WellFormed := by
  constructor <;> simp [empty]

section Rows

variable {α : Type} {f : α → Nat} {rows : List α} {bound : Nat}

private theorem ascending_inj (h : (rows.map f).Pairwise (· < ·)) {a b : α} (ha : a ∈ rows)
    (hb : b ∈ rows) (he : f a = f b) : a = b :=
  List.inj_on_of_nodup_map (h.imp Nat.ne_of_lt) ha hb he

private theorem ascending_append (h : (rows.map f).Pairwise (· < ·))
    (hb : ∀ r ∈ rows, f r ≤ bound) {x : α} (hx : f x = bound + 1) :
    ((rows ++ [x]).map f).Pairwise (· < ·) := by
  rw [List.map_append, List.pairwise_append]
  refine ⟨h, by simp, ?_⟩
  intro i hi j hj
  obtain ⟨r, hr, rfl⟩ := List.mem_map.mp hi
  have hle := hb r hr
  simp only [List.map_cons, List.map_nil, List.mem_singleton] at hj
  omega

private theorem bound_append (hb : ∀ r ∈ rows, f r ≤ bound) {x : α} (hx : f x = bound + 1) :
    ∀ r ∈ rows ++ [x], f r ≤ bound + 1 := by
  intro r hr
  rcases List.mem_append.mp hr with hr | hr
  · exact Nat.le_succ_of_le (hb r hr)
  · rw [List.mem_singleton.mp hr]
    exact Nat.le_of_eq hx

end Rows

namespace WellFormed

theorem metric_id_inj (h : s.WellFormed) {a b : String} {id : Nat} (ha : s.HasMetric a id)
    (hb : s.HasMetric b id) : a = b := by
  obtain ⟨r, hr, rfl, hi⟩ := ha
  obtain ⟨q, hq, rfl, hj⟩ := hb
  rw [ascending_inj h.metricIds hr hq (hi.trans hj.symm)]

theorem metric_name_inj (h : s.WellFormed) {name : String} {i j : Nat} (hi : s.HasMetric name i)
    (hj : s.HasMetric name j) : i = j := by
  obtain ⟨r, hr, hn, rfl⟩ := hi
  obtain ⟨q, hq, hm, rfl⟩ := hj
  rw [List.inj_on_of_nodup_map h.metricNames hr hq (hn.trans hm.symm)]

theorem label_id_inj (h : s.WellFormed) {p q : String × String} {id : Nat}
    (hp : s.HasLabel p.1 p.2 id) (hq : s.HasLabel q.1 q.2 id) : p = q := by
  have he := ascending_inj h.labelIds hp hq rfl
  simp only [LabelRow.mk.injEq, true_and] at he
  exact Prod.ext he.1 he.2

theorem label_pair_inj (h : s.WellFormed) {label value : String} {i j : Nat}
    (hi : s.HasLabel label value i) (hj : s.HasLabel label value j) : i = j := by
  have he := List.inj_on_of_nodup_map h.labelPairs hi hj rfl
  simp only [LabelRow.mk.injEq] at he
  exact he.1

theorem series_id_inj (h : s.WellFormed) {a b : SeriesRow} (ha : a ∈ s.series) (hb : b ∈ s.series)
    (he : a.id = b.id) : a = b :=
  ascending_inj h.seriesIds ha hb he

theorem member_bound (h : s.WellFormed) {r : MemberRow} (hr : r ∈ s.members) :
    r.seriesId ≤ s.counters.series := by
  obtain ⟨x, hx, he⟩ := h.memberSeries r hr
  exact he ▸ h.seriesBound x hx

/-- No label pair belongs to a series that is yet to come. -/
theorem not_member_of_new (h : s.WellFormed) {l id : Nat} (hid : s.counters.series < id) :
    ⟨l, id⟩ ∉ s.members := by
  intro hm
  have hle := h.member_bound hm
  simp only at hle
  omega

end WellFormed

theorem hasMetric_of_metricId? {name : String} {id : Nat} (h : s.metricId? name = some id) :
    s.HasMetric name id := by
  obtain ⟨r, hr, rfl⟩ := Option.map_eq_some_iff.mp h
  exact ⟨r, List.mem_of_find?_eq_some hr, by simpa using List.find?_some hr, rfl⟩

theorem ne_name_of_metricId? {name : String} (h : s.metricId? name = none) :
    ∀ r ∈ s.metrics, r.name ≠ name := by
  have hn := Option.map_eq_none_iff.mp h
  simpa using hn

theorem hasLabel_of_labelId? {label value : String} {id : Nat}
    (h : s.labelId? label value = some id) : s.HasLabel label value id := by
  obtain ⟨r, hr, rfl⟩ := List.mem_map.mp (List.min?_mem h)
  simp only [List.mem_filter, Bool.and_eq_true, beq_iff_eq] at hr
  obtain ⟨hr, rfl, rfl⟩ := hr
  exact hr

theorem ne_pair_of_labelId? {label value : String} (h : s.labelId? label value = none) :
    ∀ r ∈ s.labels, (r.label, r.value) ≠ (label, value) := by
  intro r hr he
  simp only [Prod.mk.injEq] at he
  simp only [labelId?, List.min?_eq_none_iff, List.map_eq_nil_iff, List.filter_eq_nil_iff,
    Bool.and_eq_true, beq_iff_eq] at h
  exact h r hr he

def memberIds (s : Store) (id : Nat) : List Nat :=
  (s.members.filter (·.seriesId == id)).map (·.labelId)

theorem mem_memberIds {l id : Nat} : l ∈ s.memberIds id ↔ ⟨l, id⟩ ∈ s.members := by
  simp only [memberIds, List.mem_map, List.mem_filter, beq_iff_eq]
  constructor
  · rintro ⟨r, ⟨hr, rfl⟩, rfl⟩
    exact hr
  · intro h
    exact ⟨_, ⟨h, rfl⟩, rfl⟩

theorem memberCount_eq (s : Store) (id : Nat) : s.memberCount id = (s.memberIds id).length := by
  simp [memberCount, memberIds, List.countP_eq_length_filter]

theorem matchCount_eq (s : Store) (id : Nat) (labelIds : List Nat) :
    s.matchCount id labelIds = ((s.memberIds id).filter labelIds.contains).length := by
  simp only [matchCount, memberIds, List.filter_map, List.length_map, List.filter_filter,
    List.countP_eq_length_filter]
  congr 1
  apply List.filter_congr
  intro r _
  simp [Bool.and_comm]

theorem memberIds_nodup (h : s.members.Nodup) (id : Nat) : (s.memberIds id).Nodup := by
  refine (h.filter _).map_on ?_
  intro a ha b hb he
  simp only [List.mem_filter, beq_iff_eq] at ha hb
  cases a
  cases b
  simp_all

/-- Two equal counts stand for equality of sets: of all members, and of members among the given. -/
theorem counts_eq_iff (h : s.members.Nodup) {id : Nat} {labelIds : List Nat}
    (hl : labelIds.Nodup) :
    s.memberCount id = labelIds.length ∧ s.matchCount id labelIds = labelIds.length ↔
      ∀ l, l ∈ labelIds ↔ ⟨l, id⟩ ∈ s.members := by
  have hn := memberIds_nodup h id
  simp only [memberCount_eq, matchCount_eq, ← mem_memberIds]
  constructor
  · rintro ⟨hall, hmatch⟩
    have hsub : s.memberIds id ⊆ labelIds := by
      have hin := List.length_filter_eq_length_iff.mp (hmatch.trans hall.symm)
      intro l hm
      simpa using hin l hm
    have hperm := (List.subperm_of_subset hn hsub).perm_of_length_le (Nat.le_of_eq hall.symm)
    exact fun l => hperm.mem_iff.symm
  · intro hsame
    have hperm := (List.perm_ext_iff_of_nodup hl hn).mpr hsame
    refine ⟨hperm.length_eq.symm, ?_⟩
    rw [List.filter_eq_self.mpr, hperm.length_eq]
    intro l hm
    simpa using (hsame l).mpr hm

/-- The series that both counts fit. -/
theorem mem_counted_iff (h : s.members.Nodup) {metricId id : Nat} {labelIds : List Nat}
    (hl : labelIds.Nodup) :
    id ∈ (s.series.filter fun r =>
      r.metricId == metricId && s.memberCount r.id == labelIds.length &&
        s.matchCount r.id labelIds == labelIds.length).map (·.id) ↔
      s.HasSeries metricId labelIds id := by
  have hc := @counts_eq_iff s h id labelIds hl
  simp only [List.mem_map, List.mem_filter, Bool.and_eq_true, beq_iff_eq, HasSeries]
  constructor
  · rintro ⟨r, ⟨hr, ⟨rfl, hall⟩, hmatch⟩, rfl⟩
    exact ⟨hr, hc.mp ⟨hall, hmatch⟩⟩
  · rintro ⟨hr, hsame⟩
    obtain ⟨hall, hmatch⟩ := hc.mpr hsame
    exact ⟨_, ⟨hr, ⟨rfl, hall⟩, hmatch⟩, rfl⟩

theorem seriesId?_eq_some_iff (h : s.members.Nodup) {metricId id : Nat} {labelIds : List Nat}
    (hl : labelIds.Nodup) :
    s.seriesId? metricId labelIds = some id ↔ IsLeast {i | s.HasSeries metricId labelIds i} id := by
  simp only [seriesId?, List.min?_eq_some_iff, mem_counted_iff h hl]
  rfl

theorem seriesId?_eq_none_iff (h : s.members.Nodup) {metricId : Nat} {labelIds : List Nat}
    (hl : labelIds.Nodup) :
    s.seriesId? metricId labelIds = none ↔ ∀ id, ¬ s.HasSeries metricId labelIds id := by
  rw [seriesId?, List.min?_eq_none_iff, List.eq_nil_iff_forall_not_mem]
  simp only [mem_counted_iff h hl]

theorem hasSeries_of_seriesId? (h : s.WellFormed) {metricId id : Nat} {labelIds : List Nat}
    (hl : labelIds.Nodup) (hs : s.seriesId? metricId labelIds = some id) :
    s.HasSeries metricId labelIds id :=
  ((seriesId?_eq_some_iff h.membersOnce hl).mp hs).1

theorem not_hasSeries_of_seriesId? (h : s.WellFormed) {metricId : Nat} {labelIds : List Nat}
    (hl : labelIds.Nodup) (hs : s.seriesId? metricId labelIds = none) (id : Nat) :
    ¬ s.HasSeries metricId labelIds id :=
  (seriesId?_eq_none_iff h.membersOnce hl).mp hs id

theorem addMetric_wellFormed (h : s.WellFormed) {name : String} (kind help : String)
    (hn : ∀ r ∈ s.metrics, r.name ≠ name) : (s.addMetric name kind help).2.WellFormed := by
  refine { h with
    metricIds := ascending_append h.metricIds h.metricBound rfl
    metricBound := bound_append h.metricBound rfl
    metricNames := ?_
    seriesMetric := ?_ }
  · simp only [addMetric, List.map_append, List.map_cons, List.map_nil]
    apply h.metricNames.append (List.nodup_singleton name)
    intro n hm hs
    obtain ⟨r, hr, he⟩ := List.mem_map.mp hm
    exact hn r hr (he.trans (List.mem_singleton.mp hs))
  · intro r hr
    obtain ⟨m, hm, he⟩ := h.seriesMetric r hr
    exact ⟨m, List.mem_append_left _ hm, he⟩

theorem addLabel_wellFormed (h : s.WellFormed) {label value : String}
    (hn : ∀ r ∈ s.labels, (r.label, r.value) ≠ (label, value)) :
    (s.addLabel label value).2.WellFormed := by
  refine { h with
    labelIds := ascending_append h.labelIds h.labelBound rfl
    labelBound := bound_append h.labelBound rfl
    labelPairs := ?_
    memberLabel := ?_ }
  · simp only [addLabel, List.map_append, List.map_cons, List.map_nil]
    apply h.labelPairs.append (List.nodup_singleton (label, value))
    intro p hm hs
    obtain ⟨r, hr, he⟩ := List.mem_map.mp hm
    exact hn r hr (he.trans (List.mem_singleton.mp hs))
  · intro r hr
    obtain ⟨l, hl, he⟩ := h.memberLabel r hr
    exact ⟨l, List.mem_append_left _ hl, he⟩

def withSeries (s : Store) (metricId : Nat) (labelIds : List Nat) : Store :=
  { s with
    series := s.series ++ [⟨s.counters.series + 1, metricId⟩]
    members := s.members ++ labelIds.map (⟨·, s.counters.series + 1⟩)
    counters := { s.counters with series := s.counters.series + 1 } }

/-- A series is added once its metric and its label pairs are there. -/
theorem addSeries?_eq_some {metricId : Nat} {labelIds : List Nat}
    (hm : ∃ r ∈ s.metrics, r.id = metricId) (hl : ∀ l ∈ labelIds, ∃ r ∈ s.labels, r.id = l) :
    s.addSeries? metricId labelIds =
      some (s.counters.series + 1, s.withSeries metricId labelIds) := by
  unfold addSeries?
  rw [if_pos]
  · rfl
  · simp only [Bool.and_eq_true, List.any_eq_true, List.all_eq_true, beq_iff_eq]
    exact ⟨hm, hl⟩

section WithSeries

variable {metricId : Nat} {labelIds : List Nat}

theorem mem_withSeries_members {l i : Nat} :
    ⟨l, i⟩ ∈ (s.withSeries metricId labelIds).members ↔
      ⟨l, i⟩ ∈ s.members ∨ l ∈ labelIds ∧ i = s.counters.series + 1 := by
  simp only [withSeries, List.mem_append, List.mem_map, MemberRow.mk.injEq]
  constructor
  · rintro (h | ⟨j, hj, rfl, rfl⟩)
    · exact .inl h
    · exact .inr ⟨hj, rfl⟩
  · rintro (h | ⟨hl, rfl⟩)
    · exact .inl h
    · exact .inr ⟨l, hl, rfl, rfl⟩

/-- An old series keeps its label pairs. -/
theorem withSeries_old {l i : Nat} (hi : i ≤ s.counters.series) :
    ⟨l, i⟩ ∈ (s.withSeries metricId labelIds).members ↔ ⟨l, i⟩ ∈ s.members := by
  rw [mem_withSeries_members]
  exact or_iff_left (by omega)

theorem withSeries_new (h : s.WellFormed) {l : Nat} :
    ⟨l, s.counters.series + 1⟩ ∈ (s.withSeries metricId labelIds).members ↔ l ∈ labelIds := by
  rw [mem_withSeries_members, or_iff_right (h.not_member_of_new (Nat.lt_succ_self _))]
  exact and_iff_left rfl

theorem withSeries_hasSeries (h : s.WellFormed) :
    (s.withSeries metricId labelIds).HasSeries metricId labelIds (s.counters.series + 1) :=
  ⟨List.mem_append_right _ (List.mem_singleton_self _), fun _ => (withSeries_new h).symm⟩

/-- The look-up missed, so no old series has the label pairs of the new one. -/
theorem withSeries_seriesLabels (h : s.WellFormed)
    (hn : ∀ i, ¬ s.HasSeries metricId labelIds i) {a b : SeriesRow}
    (ha : a ∈ (s.withSeries metricId labelIds).series)
    (hb : b ∈ (s.withSeries metricId labelIds).series) (hm : a.metricId = b.metricId)
    (hsame : ∀ l, ⟨l, a.id⟩ ∈ (s.withSeries metricId labelIds).members ↔
      ⟨l, b.id⟩ ∈ (s.withSeries metricId labelIds).members) : a = b := by
  have hold : ∀ r ∈ s.series, r.metricId = metricId →
      ¬ ∀ l, l ∈ labelIds ↔ ⟨l, r.id⟩ ∈ (s.withSeries metricId labelIds).members := by
    intro r hr he hl
    subst he
    exact hn r.id ⟨hr, fun l => (hl l).trans (withSeries_old (h.seriesBound r hr))⟩
  rcases List.mem_append.mp ha with ha | ha <;> rcases List.mem_append.mp hb with hb | hb
  · apply h.seriesLabels a ha b hb hm
    intro l
    rw [← withSeries_old (h.seriesBound a ha), hsame l, withSeries_old (h.seriesBound b hb)]
  · rw [List.mem_singleton.mp hb] at hm hsame
    exact absurd (fun l => ((withSeries_new h).symm.trans (hsame l).symm)) (hold a ha hm)
  · rw [List.mem_singleton.mp ha] at hm hsame
    exact absurd (fun l => ((withSeries_new h).symm.trans (hsame l))) (hold b hb hm.symm)
  · rw [List.mem_singleton.mp ha, List.mem_singleton.mp hb]

theorem withSeries_wellFormed (h : s.WellFormed) (hl : labelIds.Nodup)
    (hn : ∀ i, ¬ s.HasSeries metricId labelIds i) (hm : ∃ r ∈ s.metrics, r.id = metricId)
    (hlab : ∀ l ∈ labelIds, ∃ r ∈ s.labels, r.id = l) :
    (s.withSeries metricId labelIds).WellFormed := by
  refine { h with
    seriesIds := ascending_append h.seriesIds h.seriesBound rfl
    seriesBound := bound_append h.seriesBound rfl
    seriesMetric := ?_
    seriesLabels := fun a ha b hb => withSeries_seriesLabels h hn ha hb
    membersOnce := ?_
    memberLabel := ?_
    memberSeries := ?_
    pointSeries := ?_ }
  · intro r hr
    rcases List.mem_append.mp hr with hr | hr
    · exact h.seriesMetric r hr
    · rw [List.mem_singleton.mp hr]
      exact hm
  · refine h.membersOnce.append (hl.map fun a b he => by simpa using he) ?_
    intro r hr hq
    obtain ⟨l, -, rfl⟩ := List.mem_map.mp hq
    exact h.not_member_of_new (Nat.lt_succ_self _) hr
  · intro r hr
    rcases mem_withSeries_members.mp hr with hr | hr
    · exact h.memberLabel r hr
    · exact hlab r.labelId hr.1
  · intro r hr
    rcases mem_withSeries_members.mp hr with hr | hr
    · obtain ⟨x, hx, he⟩ := h.memberSeries r hr
      exact ⟨x, List.mem_append_left _ hx, he⟩
    · exact ⟨_, List.mem_append_right _ (List.mem_singleton_self _), hr.2.symm⟩
  · intro p hp
    obtain ⟨x, hx, he⟩ := h.pointSeries p hp
    exact ⟨x, List.mem_append_left _ hx, he⟩

end WithSeries

theorem le_lastPointId {p : PointRow} (hp : p ∈ s.points) : p.id ≤ s.lastPointId :=
  List.le_max?_getD_of_mem (List.mem_map_of_mem hp)

def pointRows (s : Store) (points : List NewPoint) : List PointRow :=
  points.mapIdx fun i p => ⟨s.lastPointId + i + 1, p.seriesId, p.timestamp, storedValue p.value⟩

theorem addPoints?_eq_some {points : List NewPoint}
    (hp : ∀ p ∈ points, ∃ x ∈ s.series, x.id = p.seriesId) :
    s.addPoints? points = some { s with points := s.points ++ s.pointRows points } := by
  unfold addPoints?
  rw [if_pos]
  · rfl
  · simp only [List.any_eq_true, List.all_eq_true, beq_iff_eq]
    exact hp

theorem pointRows_ids (s : Store) (points : List NewPoint) :
    ((s.pointRows points).map (·.id)) =
      (List.range points.length).map (s.lastPointId + · + 1) := by
  apply List.ext_getElem
  · simp [pointRows]
  · intro i hi hj
    simp [pointRows]

theorem addPoints_wellFormed (h : s.WellFormed) {points : List NewPoint}
    (hp : ∀ p ∈ points, ∃ x ∈ s.series, x.id = p.seriesId) :
    { s with points := s.points ++ s.pointRows points : Store }.WellFormed := by
  refine { h with pointIds := ?_, pointSeries := ?_ }
  · rw [List.map_append, List.pairwise_append, pointRows_ids]
    refine ⟨h.pointIds, ?_, ?_⟩
    · rw [List.pairwise_map]
      exact List.pairwise_lt_range.imp fun hlt => by omega
    · intro i hi j hj
      obtain ⟨p, hq, rfl⟩ := List.mem_map.mp hi
      obtain ⟨k, -, rfl⟩ := List.mem_map.mp hj
      have hle := le_lastPointId hq
      omega
  · intro q hq
    rcases List.mem_append.mp hq with hq | hq
    · exact h.pointSeries q hq
    · obtain ⟨i, hi, rfl⟩ := List.mem_mapIdx.mp hq
      exact hp _ (List.getElem_mem hi)

end MetricArchive.Store
