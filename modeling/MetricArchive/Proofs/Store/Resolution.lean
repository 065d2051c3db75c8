import MetricArchive.Proofs.Store.Cache

/-!
# What resolving finds

Within a transaction the tables stay well formed, rows are only appended, and what the cache stages
names rows of the tables. Whichever way an identifier is found, by the cache, by a look-up or by a
new row, it stands for the metric and the label pairs that were asked for. Resolving a request of a
known kind never fails.
-/
namespace MetricArchive

open Store

/-- A session of a transaction that began on a store with the settled cache of a writer. -/
structure Session.Within (base : Store) (c : SeriesCache) (s : Session) : Prop where
  base_wellFormed : base.WellFormed
  settled : c.Settled base
  wellFormed : s.store.WellFormed
  grown : base.Extends s.store
  points : s.store.points = base.points
  staged : s.cache.StagedTrue s.store
  rollback : s.cache.rollback = c

namespace Session

variable {base : Store} {c : SeriesCache} {s t : Session}

namespace Within

theorem start (hb : base.WellFormed) (hc : c.Settled base) : Within base c ⟨base, c, []⟩ where
  base_wellFormed := hb
  settled := hc
  wellFormed := hb
  grown := .refl base
  points := rfl
  staged := hc.stagedTrue
  rollback := hc.idle

theorem kept (h : s.Within base c) : s.cache.KeptTrue s.store := by
  have hk := h.settled.kept.mono h.base_wellFormed h.grown
  rw [← h.rollback] at hk
  exact hk

theorem hasMetric (h : s.Within base c) {name : String} {id : Nat}
    (hid : s.cache.metrics.get? name = some id) : s.store.HasMetric name id :=
  (StagedCache.mem_of_get? hid).elim (h.staged.metric _ _) (h.kept.metric _ _)

theorem hasLabel (h : s.Within base c) {label value : String} {id : Nat}
    (hid : s.cache.labels.get? (label, value) = some id) : s.store.HasLabel label value id :=
  (StagedCache.mem_of_get? hid).elim (h.staged.label _ _ _) (h.kept.label _ _ _)

theorem hasSeries (h : s.Within base c) {metricId id : Nat} {labelIds : List Nat}
    (hid : s.cache.series.get? (metricId, labelIds) = some id) :
    s.store.HasSeries metricId labelIds id :=
  (StagedCache.mem_of_get? hid).elim (h.staged.series _ _ _) (h.kept.series _ _ _)

/-- What a commit leaves behind is a settled cache again. -/
theorem commit_settled (h : s.Within base c) : s.cache.commit.Settled s.store :=
  SeriesCache.commit_settled h.kept h.staged

theorem report (h : s.Within base c) (e : Event) : (s.report e).Within base c := { h with }

theorem withStore (h : s.Within base c) {store : Store} (hw : store.WellFormed)
    (hg : s.store.Extends store) (hp : store.points = s.store.points) :
    { s with store }.Within base c :=
  { h with
    wellFormed := hw
    grown := h.grown.trans hg
    points := hp.trans h.points
    staged := h.staged.mono h.wellFormed hg }

theorem stageMetric (h : s.Within base c) {name : String} {id : Nat}
    (hm : s.store.HasMetric name id) :
    { s with cache.metrics := s.cache.metrics.stage name id }.Within base c := by
  refine { h with staged := { h.staged with metric := ?_ } }
  intro n i hi
  rcases StagedCache.mem_stage hi with hi | hi
  · exact h.staged.metric n i hi
  · cases hi
    exact hm

theorem stageLabel (h : s.Within base c) {label value : String} {id : Nat}
    (hl : s.store.HasLabel label value id) :
    { s with cache.labels := s.cache.labels.stage (label, value) id }.Within base c := by
  refine { h with staged := { h.staged with label := ?_ } }
  intro l v i hi
  rcases StagedCache.mem_stage hi with hi | hi
  · exact h.staged.label l v i hi
  · cases hi
    exact hl

theorem stageSeries (h : s.Within base c) {metricId id : Nat} {labelIds : List Nat}
    (hx : s.store.HasSeries metricId labelIds id) :
    { s with cache.series := s.cache.series.stage (metricId, labelIds) id }.Within base c := by
  refine { h with staged := { h.staged with series := ?_ } }
  intro m ids i hi
  rcases StagedCache.mem_stage hi with hi | hi
  · exact h.staged.series m ids i hi
  · cases hi
    exact hx

end Within

theorem resolveMetric_sound (h : s.Within base c) (r : SeriesRequest) :
    (s.resolveMetric r).2.Within base c ∧ s.store.Extends (s.resolveMetric r).2.store ∧
      ∀ id, (s.resolveMetric r).1 = .ok id →
        (s.resolveMetric r).2.store.HasMetric r.name id := by
  unfold resolveMetric
  split
  · rename_i id hid
    refine ⟨h, .refl _, fun i hi => ?_⟩
    cases hi
    exact h.hasMetric hid
  · split
    · rename_i id hid
      have hm := hasMetric_of_metricId? hid
      refine ⟨h.stageMetric hm, .refl _, fun i hi => ?_⟩
      cases hi
      exact hm
    · rename_i hnone
      split
      · exact ⟨h, .refl _, fun i hi => by cases hi⟩
      · have hw := addMetric_wellFormed h.wellFormed r.kind r.help (ne_name_of_metricId? hnone)
        have hg := addMetric_extends s.store r.name r.kind r.help
        have hm : (s.store.addMetric r.name r.kind r.help).2.HasMetric r.name
            (s.store.addMetric r.name r.kind r.help).1 :=
          ⟨_, List.mem_append_right _ (List.mem_singleton_self _), rfl, rfl⟩
        refine ⟨((h.withStore hw hg rfl).stageMetric hm).report _, hg, fun i hi => ?_⟩
        cases hi
        exact hm

theorem resolveMetric_isOk (s : Session) {r : SeriesRequest} {kind : MetricKind}
    (hk : MetricKind.ofName? r.kind = some kind) : ∃ id, (s.resolveMetric r).1 = .ok id := by
  unfold resolveMetric
  split
  · exact ⟨_, rfl⟩
  · split
    · exact ⟨_, rfl⟩
    · rw [if_neg (by simp [hk])]
      exact ⟨_, rfl⟩

theorem resolveLabel_sound (h : s.Within base c) (label value : String) :
    (s.resolveLabel label value).2.Within base c ∧
      s.store.Extends (s.resolveLabel label value).2.store ∧
      (s.resolveLabel label value).2.store.HasLabel label value
        (s.resolveLabel label value).1 := by
  unfold resolveLabel
  split
  · rename_i id hid
    exact ⟨h, .refl _, h.hasLabel hid⟩
  · cases hid : s.store.labelId? label value with
    | some id =>
      have hl := hasLabel_of_labelId? hid
      exact ⟨h.stageLabel hl, .refl _, hl⟩
    | none =>
      have hw := addLabel_wellFormed h.wellFormed (ne_pair_of_labelId? hid)
      have hg := addLabel_extends s.store label value
      have hl : (s.store.addLabel label value).2.HasLabel label value
          (s.store.addLabel label value).1 :=
        List.mem_append_right _ (List.mem_singleton_self _)
      exact ⟨(h.withStore hw hg rfl).stageLabel hl, hg, hl⟩

theorem mem_insertId {i id : Nat} {ids : List Nat} : i ∈ insertId id ids ↔ i = id ∨ i ∈ ids := by
  induction ids with
  | nil => simp [insertId]
  | cons j ids ih =>
    simp only [insertId]
    split_ifs with hlt he
    · simp
    · subst he
      simp
    · simp only [List.mem_cons, ih]
      exact or_left_comm

theorem insertId_ascending {id : Nat} {ids : List Nat} (h : ids.Pairwise (· < ·)) :
    (insertId id ids).Pairwise (· < ·) := by
  induction ids with
  | nil => simp [insertId]
  | cons j ids ih =>
    obtain ⟨hj, hids⟩ := List.pairwise_cons.mp h
    simp only [insertId]
    split_ifs with hlt he
    · refine List.pairwise_cons.mpr ⟨fun i hi => ?_, h⟩
      rcases List.mem_cons.mp hi with rfl | hi
      · exact hlt
      · exact hlt.trans (hj i hi)
    · exact h
    · refine List.pairwise_cons.mpr ⟨fun i hi => ?_, ih hids⟩
      rcases mem_insertId.mp hi with rfl | hi
      · omega
      · exact hj i hi

/-- The identifiers of the label pairs are those of the pairs, each once and in ascending order. -/
theorem resolveLabels_sound (labels : Labels) (h : s.Within base c) :
    (s.resolveLabels labels).2.Within base c ∧ s.store.Extends (s.resolveLabels labels).2.store ∧
      (s.resolveLabels labels).1.Pairwise (· < ·) ∧
      (∀ l ∈ (s.resolveLabels labels).1, ∃ p ∈ labels,
        (s.resolveLabels labels).2.store.HasLabel p.1 p.2 l) ∧
      ∀ p ∈ labels, ∃ l ∈ (s.resolveLabels labels).1,
        (s.resolveLabels labels).2.store.HasLabel p.1 p.2 l := by
  induction labels generalizing s with
  | nil => exact ⟨h, .refl _, .nil, by simp [resolveLabels], by simp⟩
  | cons p rest ih =>
    obtain ⟨h₁, g₁, hl⟩ := resolveLabel_sound h p.1 p.2
    obtain ⟨h₂, g₂, hasc, hto, hfrom⟩ := ih h₁
    have hp := hl.mono g₂
    refine ⟨h₂, g₁.trans g₂, insertId_ascending hasc, ?_, ?_⟩
    · intro l hm
      rcases mem_insertId.mp hm with rfl | hm
      · exact ⟨p, List.mem_cons_self, hp⟩
      · obtain ⟨q, hq, hql⟩ := hto l hm
        exact ⟨q, List.mem_cons_of_mem _ hq, hql⟩
    · intro q hq
      rcases List.mem_cons.mp hq with rfl | hq
      · exact ⟨_, mem_insertId.mpr (.inl rfl), hp⟩
      · obtain ⟨l, hm, hql⟩ := hfrom q hq
        exact ⟨l, mem_insertId.mpr (.inr hm), hql⟩

def resolveSeries (s : Session) (r : SeriesRequest) (metricId : Nat) (labelIds : List Nat) :
    Except Failure Nat × Session :=
  let stage := fun (s : Session) id =>
    { s with cache.series := s.cache.series.stage (metricId, labelIds) id }
  match s.cache.series.get? (metricId, labelIds) with
  | some id => (.ok id, s)
  | none =>
    match s.store.seriesId? metricId labelIds with
    | some id => (.ok id, stage s id)
    | none =>
      match s.store.addSeries? metricId labelIds with
      | none => (.error .integrity, s)
      | some (id, store) =>
        (.ok id, stage ({ s with store }.report (.seriesCreated r.name id r.labels)) id)

theorem resolve_eq (s : Session) (r : SeriesRequest) : s.resolve r =
    match s.resolveMetric r with
    | (.error e, s) => (.error e, s)
    | (.ok metricId, s) =>
      (s.resolveLabels r.labels).2.resolveSeries r metricId (s.resolveLabels r.labels).1 := by
  unfold resolve
  rcases s.resolveMetric r with ⟨_ | _, _⟩ <;> rfl

/-- With its metric and label pairs in place a series is always found or made. -/
theorem resolveSeries_sound (h : s.Within base c) (r : SeriesRequest) {metricId : Nat}
    {labelIds : List Nat} (hm : s.store.HasMetric r.name metricId)
    (hasc : labelIds.Pairwise (· < ·)) (hl : ∀ l ∈ labelIds, ∃ x ∈ s.store.labels, x.id = l) :
    (s.resolveSeries r metricId labelIds).2.Within base c ∧
      s.store.Extends (s.resolveSeries r metricId labelIds).2.store ∧
      ∃ id, (s.resolveSeries r metricId labelIds).1 = .ok id ∧
        (s.resolveSeries r metricId labelIds).2.store.HasSeries metricId labelIds id := by
  have hnd : labelIds.Nodup := hasc.imp Nat.ne_of_lt
  have hrow : ∃ x ∈ s.store.metrics, x.id = metricId := by
    obtain ⟨x, hx, -, hid⟩ := hm
    exact ⟨x, hx, hid⟩
  unfold resolveSeries
  cases hc : s.cache.series.get? (metricId, labelIds) with
  | some id => exact ⟨h, .refl _, id, rfl, h.hasSeries hc⟩
  | none =>
    cases hid : s.store.seriesId? metricId labelIds with
    | some id =>
      have hx := hasSeries_of_seriesId? h.wellFormed hnd hid
      exact ⟨h.stageSeries hx, .refl _, id, rfl, hx⟩
    | none =>
      have hnot := not_hasSeries_of_seriesId? h.wellFormed hnd hid
      have hw := withSeries_wellFormed h.wellFormed hnd hnot hrow hl
      have hg := withSeries_extends s.store metricId labelIds
      have hx := @withSeries_hasSeries s.store metricId labelIds h.wellFormed
      simp only [addSeries?_eq_some hrow hl]
      exact ⟨((h.withStore hw hg rfl).report _).stageSeries hx, hg, _, rfl, hx⟩

/-- Resolving fails only where the metric is new and its kind unknown. -/
theorem resolve_cases (h : s.Within base c) (r : SeriesRequest) :
    (s.resolve r).2.Within base c ∧ s.store.Extends (s.resolve r).2.store ∧
      ((∃ id, (s.resolve r).1 = .ok id ∧
          (s.resolve r).2.store.IsSeries r.name r.labels.toFinset id) ∨
        ∃ e, (s.resolveMetric r).1 = .error e ∧ (s.resolve r).1 = .error e) := by
  obtain ⟨h₁, g₁, hm⟩ := resolveMetric_sound h r
  rw [resolve_eq]
  rcases hr : s.resolveMetric r with ⟨e | metricId, s₁⟩
  · rw [hr] at h₁ g₁
    exact ⟨h₁, g₁, .inr ⟨e, rfl, rfl⟩⟩
  · rw [hr] at h₁ g₁ hm
    obtain ⟨h₂, g₂, hasc, hto, hfrom⟩ := resolveLabels_sound r.labels h₁
    have hm₂ := (hm metricId rfl).mono g₂
    obtain ⟨h₃, g₃, id, hok, hx⟩ := resolveSeries_sound h₂ r hm₂ hasc fun l hl => by
      obtain ⟨p, -, hp⟩ := hto l hl
      exact ⟨_, hp, rfl⟩
    refine ⟨h₃, (g₁.trans g₂).trans g₃, .inl ⟨id, hok, metricId, _, hm₂.mono g₃, hx, ?_, ?_⟩⟩
    · intro l hl
      obtain ⟨p, hp, hpl⟩ := hto l hl
      exact ⟨p, List.mem_toFinset.mpr hp, hpl.mono g₃⟩
    · intro p hp
      obtain ⟨l, hl, hpl⟩ := hfrom p (List.mem_toFinset.mp hp)
      exact ⟨l, hl, hpl.mono g₃⟩

theorem resolve_isSeries (h : s.Within base c) {r : SeriesRequest} {id : Nat}
    (hid : (s.resolve r).1 = .ok id) :
    (s.resolve r).2.store.IsSeries r.name r.labels.toFinset id := by
  obtain ⟨-, -, ⟨i, hi, hx⟩ | ⟨e, -, he⟩⟩ := resolve_cases h r
  · rw [hid] at hi
    cases hi
    exact hx
  · rw [hid] at he
    cases he

/-- A request of a known kind has a series. -/
theorem resolve_isOk (h : s.Within base c) {r : SeriesRequest} {kind : MetricKind}
    (hk : MetricKind.ofName? r.kind = some kind) : ∃ id, (s.resolve r).1 = .ok id := by
  obtain ⟨-, -, ⟨id, hid, -⟩ | ⟨e, he, -⟩⟩ := resolve_cases h r
  · exact ⟨id, hid⟩
  · obtain ⟨id, hid⟩ := resolveMetric_isOk s hk
    rw [hid] at he
    cases he

end Session

end MetricArchive
