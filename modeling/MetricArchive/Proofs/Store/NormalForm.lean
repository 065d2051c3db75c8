import MetricArchive.Proofs.Store.Archive

/-!
# Tables without garbage

Resolving a series adds no more than its metric, its label pairs and the series itself, so after a
transaction whose samples all have a series each row is in use: metrics by series, label pairs by
series, and series by points. The database checks none of this. A transaction that fails leaves no
rows behind. Main statement: any run of writes, whether they fail or not, leaves normalized tables.
-/
namespace MetricArchive

def Scrape.LabelsKeyed (s : Scrape) : Prop :=
  ∀ f ∈ s.families, ∀ p ∈ f.samples, (p.labels.map (·.1)).Nodup

instance (s : Scrape) : Decidable s.LabelsKeyed :=
  inferInstanceAs (Decidable (∀ f ∈ s.families, ∀ p ∈ f.samples, (p.labels.map (·.1)).Nodup))

namespace Store

/-- Every row is in use and no series has two values for one label, where the series that have
points are given. -/
structure Tidy (s : Store) (sampled : List Nat) : Prop where
  metricUsed : ∀ m ∈ s.metrics, ∃ x ∈ s.series, x.metricId = m.id
  labelUsed : ∀ l ∈ s.labels, ∃ r ∈ s.members, r.labelId = l.id
  seriesUsed : ∀ x ∈ s.series, x.id ∈ sampled
  oneValue : ∀ id, ∀ p ∈ s.labelPairs id, ∀ q ∈ s.labelPairs id, p.1 = q.1 → p = q

structure Normalized (s : Store) : Prop
    extends s.WellFormed, s.Tidy (s.points.map (·.seriesId))

theorem empty_normalized : empty.Normalized := by
  refine { empty_wellFormed with
    metricUsed := ?_
    labelUsed := ?_
    seriesUsed := ?_
    oneValue := ?_ }
  all_goals simp [empty, labelPairs]

/-- At most a metric of the name, some of the label pairs and the series are new. -/
structure GrownFor (name : String) (pairs : Labels) (id : Nat) (s t : Store) : Prop where
  metrics : ∀ m ∈ t.metrics, m ∈ s.metrics ∨ m.name = name
  labels : ∀ l ∈ t.labels, l ∈ s.labels ∨ (l.label, l.value) ∈ pairs
  series : ∀ x ∈ t.series, x ∈ s.series ∨ x.id = id
  members : ∀ r ∈ t.members, r ∈ s.members ∨ r.seriesId = id

namespace GrownFor

variable {name : String} {pairs : Labels} {id : Nat} {s t u : Store}

theorem refl (s : Store) : GrownFor name pairs id s s where
  metrics _ := .inl
  labels _ := .inl
  series _ := .inl
  members _ := .inl

theorem trans (h : GrownFor name pairs id s t) (g : GrownFor name pairs id t u) :
    GrownFor name pairs id s u where
  metrics m hm := (g.metrics m hm).elim (h.metrics m) .inr
  labels l hl := (g.labels l hl).elim (h.labels l) .inr
  series x hx := (g.series x hx).elim (h.series x) .inr
  members r hr := (g.members r hr).elim (h.members r) .inr

theorem addMetric (s : Store) (kind help : String) :
    GrownFor name pairs id s (s.addMetric name kind help).2 :=
  { (refl s : GrownFor name pairs id s s) with
    metrics := fun m hm => (List.mem_append.mp hm).imp_right fun hm => by
      rw [List.mem_singleton.mp hm] }

theorem addLabel (s : Store) {label value : String} (hp : (label, value) ∈ pairs) :
    GrownFor name pairs id s (s.addLabel label value).2 :=
  { (refl s : GrownFor name pairs id s s) with
    labels := fun l hl => (List.mem_append.mp hl).imp_right fun hl => by
      rwa [List.mem_singleton.mp hl] }

theorem addSeries (s : Store) {metricId : Nat} {labelIds : List Nat}
    (h : s.addSeries? metricId labelIds = some (id, t)) : GrownFor name pairs id s t := by
  unfold addSeries? at h
  split at h
  · cases h
    refine { (refl s : GrownFor name pairs (s.counters.series + 1) s s) with
      series := fun x hx => ?_
      members := fun r hr => ?_ }
    · refine (List.mem_append.mp hx).imp_right fun hx => ?_
      rw [List.mem_singleton.mp hx]
    · refine (List.mem_append.mp hr).imp_right fun hr => ?_
      obtain ⟨l, -, rfl⟩ := List.mem_map.mp hr
      rfl
  · cases h

/-- A series that was there before keeps its label pairs. -/
theorem labelPairs_old (h : GrownFor name pairs id s t) (hs : s.WellFormed) (ht : t.WellFormed)
    (g : s.Extends t) {i : Nat} (hi : i ≠ id) : t.labelPairs i ⊆ s.labelPairs i := by
  intro p hp
  obtain ⟨l, hm, hl⟩ := mem_labelPairs.mp hp
  have hold := (h.members _ hm).resolve_right hi
  obtain ⟨row, hrow, rfl⟩ := hs.memberLabel _ hold
  have hsame : (row.label, row.value) = p := ht.label_id_inj (g.labels.subset hrow) hl
  subst hsame
  exact mem_labelPairs.mpr ⟨_, hold, hrow⟩

end GrownFor

variable {name : String} {pairs : Labels} {id : Nat} {s t : Store} {sampled : List Nat}

/-- What is new is in use by the new series, which is still to get a point. -/
theorem Tidy.grow (h : s.Tidy sampled) (ha : GrownFor name pairs id s t) (hs : s.WellFormed)
    (ht : t.WellFormed) (g : s.Extends t) (hx : t.IsSeries name pairs.toFinset id)
    (hk : (pairs.map (·.1)).Nodup) : t.Tidy (sampled ++ [id]) := by
  obtain ⟨metricId, labelIds, hmetric, hseries, hto, hfrom⟩ := hx
  constructor
  case metricUsed =>
    intro m hm
    rcases ha.metrics m hm with hold | hnew
    · obtain ⟨x, hx, he⟩ := h.metricUsed m hold
      exact ⟨x, g.series.subset hx, he⟩
    -- names are unique, so the new metric is the one of the new series
    · exact ⟨_, hseries.1, ht.metric_name_inj hmetric ⟨m, hm, hnew, rfl⟩⟩
  case labelUsed =>
    intro l hl
    rcases ha.labels l hl with hold | hnew
    · obtain ⟨rows, hrows, -⟩ := g.members
      obtain ⟨r, hr, he⟩ := h.labelUsed l hold
      exact ⟨r, hrows ▸ List.mem_append_left rows hr, he⟩
    · obtain ⟨i, hi, hlabel⟩ := hfrom _ (List.mem_toFinset.mpr hnew)
      exact ⟨_, (hseries.2 i).mp hi, ht.label_pair_inj hlabel hl⟩
  case seriesUsed =>
    intro x hx
    rcases ha.series x hx with hold | hnew
    · exact List.mem_append_left _ (h.seriesUsed x hold)
    · exact List.mem_append_right _ (List.mem_singleton.mpr hnew)
  case oneValue =>
    intro i p hp q hq he
    by_cases hi : i = id
    · subst hi
      rw [labelPairs_eq ht hseries hto hfrom, List.mem_toFinset] at hp hq
      exact List.inj_on_of_nodup_map hk hp hq he
    · have hsub := ha.labelPairs_old hs ht g hi
      exact h.oneValue i p (hsub hp) q (hsub hq) he

/-- The points that were awaited are inserted. -/
theorem Tidy.addPoints {points : List NewPoint}
    (h : s.Tidy (s.points.map (·.seriesId) ++ points.map (·.seriesId))) :
    let t := { s with points := s.points ++ s.pointRows points }
    t.Tidy (t.points.map (·.seriesId)) := by
  have hrows : (s.pointRows points).map (·.seriesId) = points.map (·.seriesId) := by
    apply List.ext_getElem <;> simp [pointRows]
  simp only [List.map_append, hrows]
  exact { h with }

end Store

open Store

namespace Session

variable {s : Session} {pairs : Labels} {id : Nat}

theorem resolveMetric_grownFor (s : Session) (r : SeriesRequest) :
    GrownFor r.name pairs id s.store (s.resolveMetric r).2.store := by
  unfold resolveMetric
  split
  · exact .refl _
  · split
    · exact .refl _
    · split
      · exact .refl _
      · exact .addMetric _ _ _

theorem resolveLabel_grownFor {name : String} (s : Session) {label value : String}
    (hp : (label, value) ∈ pairs) :
    GrownFor name pairs id s.store (s.resolveLabel label value).2.store := by
  unfold resolveLabel
  split
  · exact .refl _
  · cases s.store.labelId? label value with
    | some id => exact .refl _
    | none => exact .addLabel _ hp

theorem resolveLabels_grownFor {name : String} (s : Session) {labels : Labels}
    (hp : labels ⊆ pairs) : GrownFor name pairs id s.store (s.resolveLabels labels).2.store := by
  induction labels generalizing s with
  | nil => exact .refl _
  | cons p rest ih =>
    obtain ⟨hfirst, hrest⟩ := List.cons_subset.mp hp
    exact (resolveLabel_grownFor s hfirst).trans (ih _ hrest)

theorem resolveSeries_grownFor {r : SeriesRequest} {metricId : Nat} {labelIds : List Nat}
    (h : (s.resolveSeries r metricId labelIds).1 = .ok id) :
    GrownFor r.name pairs id s.store (s.resolveSeries r metricId labelIds).2.store := by
  unfold resolveSeries at h ⊢
  cases hcached : s.cache.series.get? (metricId, labelIds) with
  | some i => exact .refl _
  | none =>
    cases hfound : s.store.seriesId? metricId labelIds with
    | some i => exact .refl _
    | none =>
      cases hadd : s.store.addSeries? metricId labelIds with
      | none => exact .refl _
      | some added =>
        simp only [hcached, hfound, hadd, Except.ok.injEq] at h
        subst h
        exact .addSeries _ hadd

/-- A request that has an answer adds only what the answer stands for. -/
theorem resolve_grownFor {r : SeriesRequest} (h : (s.resolve r).1 = .ok id) :
    GrownFor r.name r.labels id s.store (s.resolve r).2.store := by
  rw [resolve_eq] at h ⊢
  have hmetric := @resolveMetric_grownFor r.labels id s r
  rcases hr : s.resolveMetric r with ⟨e | metricId, s₁⟩
  · rw [hr] at h
    cases h
  · rw [hr] at h hmetric
    exact (hmetric.trans (resolveLabels_grownFor s₁ (List.Subset.refl _))).trans
      (resolveSeries_grownFor h)

end Session

namespace Writer

variable {base store : Store} {c : SeriesCache} {w : Writer} {s : Scrape}

/-- The series that are new await the points collected so far. -/
theorem draft_tidy (d : Disruption) (s : Scrape) {requests : List (SeriesRequest × Sample)}
    (hk : ∀ q ∈ requests, (q.1.labels.map (·.1)).Nodup) {t : Draft} {sampled : List Nat}
    (h : t.session.Within base c)
    (ht : t.session.store.Tidy (sampled ++ t.points.map (·.seriesId)))
    (hnone : (draft d s t requests).1 = none) :
    (draft d s t requests).2.session.store.Tidy
      (sampled ++ (draft d s t requests).2.points.map (·.seriesId)) := by
  induction requests generalizing t with
  | nil => exact ht
  | cons q rest ih =>
    obtain ⟨request, sample⟩ := q
    obtain ⟨hkeyed, hrest⟩ := List.forall_mem_cons.mp hk
    obtain ⟨hw, hg, -⟩ := Session.resolve_cases h request
    have hadded := fun id => @Session.resolve_grownFor t.session id request
    have hseries := fun id => @Session.resolve_isSeries base c t.session h request id
    unfold draft at hnone ⊢
    cases hd : d.resolve t.calls with
    | some failure => simp [hd] at hnone
    | none =>
      simp only [hd] at hnone ⊢
      generalize t.session.resolve request = answered at hw hg hadded hseries hnone ⊢
      obtain ⟨failure | id, session⟩ := answered
      · cases hnone
      -- the invariant: a series without a point in the store has one among those collected
      · refine ih hrest hw ?_ hnone
        rw [List.map_append, List.map_singleton, ← List.append_assoc]
        exact ht.grow (hadded id rfl) h.wellFormed hw.wellFormed hg (hseries id rfl) hkeyed

theorem transact_normalized (d : Disruption) (hb : store.Normalized) (hc : w.cache.Settled store)
    (hk : s.LabelsKeyed) {committed : Store} (h : (transact d store w s).1 = .ok committed) :
    committed.Normalized := by
  have hkeyed : ∀ q ∈ requests s, (q.1.labels.map (·.1)).Nodup := by
    intro q hq
    obtain ⟨f, hf, hp, he⟩ := mem_requests hq
    rw [he]
    exact hk f hf q.2 hp
  have hstart : (opened store w).session.store.Tidy
      (store.points.map (·.seriesId) ++ (opened store w).points.map (·.seriesId)) := by
    simpa using hb.toTidy
  obtain ⟨hw, hbears⟩ := requests_draft d s (fun _ hq => hq) hb.toWellFormed hc
  have htidy := draft_tidy d s hkeyed (.start hb.toWellFormed hc) hstart
  have hadded := ((transact_sound d s hb.toWellFormed hc).2 committed h).2
  rw [transact_eq] at h
  generalize draft d s (opened store w) (requests s) = drafted at h hw hbears htidy
  obtain ⟨_ | failure, t⟩ := drafted
  · rw [finish_eq d (bears_series (hbears rfl))] at h
    split at h
    · cases h
    · cases h
      have ht := htidy rfl
      rw [← hw.points] at ht
      exact { hadded.wellFormed, ht.addPoints with }
  · cases h

theorem write_normalized (d : Disruption) (hb : store.Normalized) (hc : w.cache.Settled store)
    (hk : s.LabelsKeyed) : (write d store w s).store.Normalized := by
  cases h : (transact d store w s).1 with
  | ok committed =>
    rw [write_store h]
    exact transact_normalized d hb hc hk h
  | error failure =>
    rw [(write_lost hb.toWellFormed hc h).store]
    exact hb

end Writer

namespace Archive

def Move.LabelsKeyed : Move → Prop
  | .write _ _ s => s.LabelsKeyed
  | _ => True

instance : (m : Move) → Decidable m.LabelsKeyed
  | .write _ _ s => inferInstanceAs (Decidable s.LabelsKeyed)
  | .reopen _ => .isTrue trivial
  | .clear _ => .isTrue trivial

variable {a : Archive} {seen : List Observation}

theorem Holds.normalized_step (h : a.Holds seen) (hn : a.store.Normalized) {m : Move}
    (hm : m.LabelsKeyed) : (a.step m).store.Normalized := by
  cases m with
  | reopen k => exact hn
  | clear k => exact hn
  | write k attempt s =>
    have hc := h.serves.settled k
    cases attempt with
    | disrupted d => exact Writer.write_normalized d hn hc hm
    | brokenOff failure calls pairs =>
      have hlost := Writer.breakOff_lost failure calls pairs s hn.toWellFormed hc
      simp only [Archive.step, Attempt.outcome, hlost.store]
      exact hn

theorem Holds.normalized_run (h : a.Holds seen) (hn : a.store.Normalized) {moves : List Move}
    (hm : ∀ m ∈ moves, m.LabelsKeyed) : (a.run moves).store.Normalized := by
  induction moves generalizing a seen with
  | nil => exact hn
  | cons m rest ih =>
    obtain ⟨hfirst, hrest⟩ := List.forall_mem_cons.mp hm
    exact ih (h.step m) (h.normalized_step hn hfirst) hrest

/-- Whatever writers did to it, a store holds each fact once and no row that nothing uses. -/
theorem run_normalized {moves : List Move} (hm : ∀ m ∈ moves, m.LabelsKeyed) :
    (empty.run moves).store.Normalized :=
  empty_holds.normalized_run empty_normalized hm

/-! A write that breaks off between two labels and one that cannot commit leave nothing behind. -/

def visits (codes : List String) : Scrape :=
  ⟨.utc 0, [⟨"visits", .counter, "", codes.map fun code =>
    ⟨"visits", [("code", code), ("host", "a")], .finite false 1 0, none⟩⟩], "a"⟩

def interrupted : List Move :=
  [.write 0 (.brokenOff .operational 0 1) (visits ["200", "404"]),
    .write 0 (.disrupted .none) (visits ["200"]),
    .write 1 (.disrupted { Disruption.none with commit := some .storage }) (visits ["500"]),
    .reopen 0,
    .write 0 (.disrupted .none) (visits ["200", "404"])]

theorem run_normalized_interrupted : (∀ m ∈ interrupted, m.LabelsKeyed) ∧
    (empty.run interrupted).store.Normalized ∧
    (empty.run interrupted).store.labels.map (fun l => (l.label, l.value)) =
      [("code", "200"), ("host", "a"), ("code", "404")] :=
  ⟨by decide, run_normalized (by decide), by decide⟩

end Archive

end MetricArchive
