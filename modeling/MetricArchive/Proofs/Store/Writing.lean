import MetricArchive.Proofs.Store.ReadBack
import MetricArchive.Proofs.Store.Resolution
import MetricArchive.Proofs.Time.Instants
import MetricArchive.Store.Writer

/-!
# What a write leaves behind

A write that commits appends one row of points for each sample of its scrape, in order and each
under the series of its sample; nothing else that was in the tables changes. A write that fails
leaves the store and the cache as they were, wherever it fails.
-/
namespace MetricArchive

namespace Scrape

/-- What a store can say of a sample: the time is in whole milliseconds, rounded down, a NaN is no
value and a zero has no sign. -/
def observation (s : Scrape) (p : Sample) : Observation where
  metric := p.name
  labels := p.labels.toFinset
  timestamp :=
    let taken := match p.timestamp with
      | some own => own
      | none => s.collectedAt
    ⌊(taken.micros : ℚ) / 1000⌋
  value :=
    match p.value with
    | .nan => none
    | .finite _ 0 e => some (.finite false 0 e)
    | x => some x

/-- The samples in family order and then in sample order. -/
def observations (s : Scrape) : List Observation :=
  s.families.flatMap fun f => f.samples.map s.observation

end Scrape

structure Store.Bears (s : Store) (p : Store.NewPoint) (e : Observation) : Prop where
  series : s.IsSeries e.metric e.labels p.seriesId
  timestamp : p.timestamp = e.timestamp
  value : Store.storedValue p.value = e.value

namespace Store

variable {s t : Store}

theorem Bears.mono {p : NewPoint} {e : Observation} (h : s.Bears p e) (hs : s.WellFormed)
    (g : s.Extends t) : t.Bears p e :=
  { h with series := h.series.mono hs g }

theorem pointRows_shows {points : List NewPoint} {seen : List Observation}
    (h : List.Forall₂ s.Bears points seen) :
    List.Forall₂ s.Shows (s.pointRows points) seen := by
  obtain ⟨hlen, hget⟩ := List.forall₂_iff_get.mp h
  refine List.forall₂_iff_get.mpr ⟨by simpa [pointRows] using hlen, ?_⟩
  intro i hi hj
  obtain ⟨hseries, htime, hvalue⟩ := hget i (by simpa [pointRows] using hi) hj
  refine ⟨?_, ?_, ?_⟩
  · simpa [pointRows] using hseries
  · simpa [pointRows] using htime
  · simpa [pointRows] using hvalue

theorem bears_series {points : List NewPoint} {seen : List Observation}
    (h : List.Forall₂ s.Bears points seen) :
    ∀ p ∈ points, ∃ x ∈ s.series, x.id = p.seriesId := by
  induction h with
  | nil => simp
  | cons hp _ ih =>
    obtain ⟨metricId, labelIds, -, hx, -⟩ := hp.series
    exact List.forall_mem_cons.mpr ⟨⟨_, hx.1, rfl⟩, ih⟩

theorem storedValue_eq (s : Scrape) (p : Sample) :
    storedValue p.value = (s.observation p).value := by
  simp only [storedValue, Scrape.observation]
  rcases p.value with _ | _ | ⟨_, _ | _, _⟩ <;> rfl

end Store

namespace Disruption

/-- The first failure among so many calls, when some have been made before. -/
def among? (d : Disruption) (made calls : Nat) : Option Failure :=
  (List.range calls).findSome? fun i => d.resolve (made + i)

/-- The first failure that a transaction meets. Without a call there is nothing to insert. -/
def first? (d : Disruption) (made calls : Nat) : Option Failure :=
  (d.among? made calls).or ((if calls = 0 then .none else d.insert).or d.commit)

theorem among?_succ (d : Disruption) (made calls : Nat) :
    d.among? made (calls + 1) = (d.resolve made).or (d.among? (made + 1) calls) := by
  simp only [among?, List.range_succ_eq_map, List.findSome?_cons, List.findSome?_map,
    Nat.add_zero, Function.comp_def, Nat.succ_eq_add_one]
  cases d.resolve made with
  | some failure => rfl
  | none =>
    simp only [Option.none_or]
    congr 1
    funext i
    congr 1
    omega

theorem first?_none (made calls : Nat) : none.first? made calls = .none := by
  simp [first?, among?, none]

end Disruption

namespace Writer

open Store

variable {base store : Store} {c : SeriesCache}

theorem mem_requests {s : Scrape} {q : SeriesRequest × Sample} (h : q ∈ requests s) :
    ∃ f ∈ s.families, q.2 ∈ f.samples ∧ q.1 = ⟨q.2.name, f.kind.name, f.help, q.2.labels⟩ := by
  simp only [requests, List.mem_flatMap, List.mem_map] at h
  obtain ⟨f, hf, p, hp, rfl⟩ := h
  exact ⟨f, hf, hp, rfl⟩

theorem requests_observations (s : Scrape) :
    (requests s).map (fun q => s.observation q.2) = s.observations := by
  simp [requests, Scrape.observations, List.map_flatMap, Function.comp_def]

/-- The points collected so far stand for the samples taken so far. -/
theorem draft_sound (d : Disruption) (s : Scrape) {requests : List (SeriesRequest × Sample)}
    (hq : ∀ q ∈ requests, q.1.name = q.2.name ∧ q.1.labels = q.2.labels) {t : Draft}
    {taken : List Observation} (h : t.session.Within base c)
    (ht : List.Forall₂ t.session.store.Bears t.points taken) :
    (draft d s t requests).2.session.Within base c ∧
      ((draft d s t requests).1 = none →
        List.Forall₂ (draft d s t requests).2.session.store.Bears (draft d s t requests).2.points
          (taken ++ requests.map fun q => s.observation q.2)) := by
  induction requests generalizing t taken with
  | nil => exact ⟨h, fun _ => by simpa [draft] using ht⟩
  | cons q rest ih =>
    obtain ⟨request, sample⟩ := q
    obtain ⟨⟨hname, hlabels⟩, hrest⟩ := List.forall_mem_cons.mp hq
    simp only at hname hlabels
    obtain ⟨hw, hg, -⟩ := Session.resolve_cases h request
    have hid := fun id => @Session.resolve_isSeries base c t.session h request id
    unfold draft
    cases d.resolve t.calls with
    | some failure => exact ⟨h, fun hn => by cases hn⟩
    | none =>
      generalize t.session.resolve request = answered at hw hg hid ⊢
      obtain ⟨failure | id, session⟩ := answered
      · exact ⟨hw, fun hn => by cases hn⟩
      · have hpoint : session.store.Bears ⟨id, (s.timestampOf sample).epochMillis, sample.value⟩
            (s.observation sample) := by
          refine ⟨?_, ?_, storedValue_eq s sample⟩
          · simp only [Scrape.observation, ← hname, ← hlabels]
            exact hid id rfl
          · simp only [Scrape.timestampOf, Scrape.observation, Moment.epochMillis_eq_floor]
            cases sample.timestamp <;> rfl
        have hold := ht.imp fun p e hp => hp.mono h.wellFormed hg
        have hnew : List.Forall₂ session.store.Bears (t.points ++ [_]) (taken ++ [_]) :=
          List.rel_append hold (.cons hpoint .nil)
        obtain ⟨hend, hall⟩ := ih hrest (t := ⟨session, t.calls + 1, _⟩) hw hnew
        refine ⟨hend, fun hn => ?_⟩
        simpa using hall hn

/-- Where every kind is known a call fails only if it is made to. -/
theorem draft_failure (d : Disruption) (s : Scrape) {requests : List (SeriesRequest × Sample)}
    (hk : ∀ q ∈ requests, ∃ kind, MetricKind.ofName? q.1.kind = some kind) {t : Draft}
    (h : t.session.Within base c) :
    (draft d s t requests).1 = d.among? t.calls requests.length := by
  induction requests generalizing t with
  | nil => rfl
  | cons q rest ih =>
    obtain ⟨request, sample⟩ := q
    obtain ⟨⟨kind, hkind⟩, hrest⟩ := List.forall_mem_cons.mp hk
    obtain ⟨id, hid⟩ := Session.resolve_isOk h hkind
    obtain ⟨hw, -, -⟩ := Session.resolve_cases h request
    generalize hr : t.session.resolve request = answered at hid hw
    obtain ⟨answer, session⟩ := answered
    simp only at hid
    subst hid
    rw [List.length_cons, d.among?_succ, draft]
    cases d.resolve t.calls with
    | some failure => rfl
    | none =>
      simp only [hr, Option.none_or]
      exact ih hrest hw

section Transaction

variable {w : Writer}

abbrev opened (store : Store) (w : Writer) : Draft := ⟨⟨store, w.cache, []⟩, w.calls, []⟩

structure Added (store committed : Store) (s : Scrape) : Prop where
  wellFormed : committed.WellFormed
  rows : ∃ rows, committed.points = store.points ++ rows ∧
    List.Forall₂ committed.Shows rows s.observations

theorem requests_draft (d : Disruption) (s : Scrape) {taken : List (SeriesRequest × Sample)}
    (hq : ∀ q ∈ taken, q ∈ requests s) (hb : store.WellFormed) (hc : w.cache.Settled store) :
    (draft d s (opened store w) taken).2.session.Within store w.cache ∧
      ((draft d s (opened store w) taken).1 = none →
        List.Forall₂ (draft d s (opened store w) taken).2.session.store.Bears
          (draft d s (opened store w) taken).2.points (taken.map fun q => s.observation q.2)) := by
  refine @draft_sound _ _ d s _ (fun q hm => ?_) (opened store w) [] (.start hb hc) .nil
  obtain ⟨f, -, -, he⟩ := mem_requests (hq q hm)
  simp [he]

def finish (d : Disruption) : Option Failure × Draft → Except Failure Store
  | (some failure, _) => .error failure
  | (none, t) =>
    if t.points.isEmpty then
      match d.commit with
      | some failure => .error failure
      | none => .ok t.session.store
    else
      match d.insert, t.session.store.addPoints? t.points, d.commit with
      | some failure, _, _ => .error failure
      | none, none, _ => .error .integrity
      | none, some _, some failure => .error failure
      | none, some store, none => .ok store

theorem transact_eq (d : Disruption) (s : Scrape) :
    transact d store w s = (finish d (draft d s (opened store w) (requests s)),
      (draft d s (opened store w) (requests s)).2) := by
  unfold transact finish
  rcases draft d s (opened store w) (requests s) with ⟨_ | failure, t⟩
  · simp only
    split
    · cases d.commit <;> rfl
    · rcases d.insert with _ | _ <;> rcases t.session.store.addPoints? t.points with _ | _ <;>
        rcases d.commit with _ | _ <;> rfl
  · rfl

/-- Points of series that exist are inserted, so only what is made to fail fails. -/
theorem finish_eq (d : Disruption) {t : Draft}
    (hp : ∀ p ∈ t.points, ∃ x ∈ t.session.store.series, x.id = p.seriesId) :
    finish d (none, t) =
      match (if t.points.length = 0 then none else d.insert).or d.commit with
      | some failure => .error failure
      | none => .ok { t.session.store with
          points := t.session.store.points ++ t.session.store.pointRows t.points } := by
  simp only [finish, addPoints?_eq_some hp]
  rcases hpoints : t.points with _ | ⟨p, points⟩
  · cases d.commit <;> simp [pointRows]
  · rcases d.insert with _ | _ <;> rcases d.commit with _ | _ <;> simp

theorem transact_sound (d : Disruption) (s : Scrape) (hb : store.WellFormed)
    (hc : w.cache.Settled store) :
    (transact d store w s).2.session.Within store w.cache ∧
      ∀ committed, (transact d store w s).1 = .ok committed →
        (transact d store w s).2.session.store.Extends committed ∧ Added store committed s := by
  obtain ⟨hw, hbears⟩ := requests_draft d s (fun _ hq => hq) hb hc
  rw [requests_observations] at hbears
  rw [transact_eq]
  generalize draft d s (opened store w) (requests s) = drafted at hw hbears ⊢
  obtain ⟨_ | failure, t⟩ := drafted
  · replace hbears := hbears rfl
    refine ⟨hw, fun committed h => ?_⟩
    rw [finish_eq d (bears_series hbears)] at h
    split at h
    · cases h
    · cases h
      have hg := addPoints_extends t.session.store (t.session.store.pointRows t.points)
      refine ⟨hg, addPoints_wellFormed hw.wellFormed (bears_series hbears), _,
        by rw [← hw.points], ?_⟩
      exact (pointRows_shows hbears).imp fun p e hp => hp.mono hw.wellFormed hg
  · exact ⟨hw, nofun⟩

/-- A transaction fails with the first failure that it meets, and with no other. -/
theorem transact_error_iff (d : Disruption) (s : Scrape) (hb : store.WellFormed)
    (hc : w.cache.Settled store) {failure : Failure} :
    (transact d store w s).1 = .error failure ↔
      d.first? w.calls (requests s).length = some failure := by
  obtain ⟨hw, hbears⟩ := requests_draft d s (fun _ hq => hq) hb hc
  have hfailed : (draft d s (opened store w) (requests s)).1 =
      d.among? w.calls (requests s).length := by
    refine draft_failure d s (fun q hq => ?_) (.start hb hc)
    obtain ⟨f, -, -, he⟩ := mem_requests hq
    rw [he]
    exact ⟨f.kind, f.kind.ofName?_name⟩
  rw [transact_eq, Disruption.first?, ← hfailed]
  generalize draft d s (opened store w) (requests s) = drafted at hbears ⊢
  obtain ⟨_ | _, t⟩ := drafted
  · replace hbears := hbears rfl
    have hlength : t.points.length = (requests s).length := by
      simpa using hbears.length_eq
    rw [finish_eq d (bears_series hbears), hlength, Option.none_or]
    generalize (if (requests s).length = 0 then none else d.insert).or d.commit = first
    cases first <;> simp
  · simp [finish]

end Transaction

def keep (committed : Store) (w : Writer) (s : Scrape) (session : Session) (calls : Nat) :
    Outcome :=
  let metrics := { w.metrics with
    scrapesWritten := w.metrics.scrapesWritten + 1
    samplesWritten := w.metrics.samplesWritten + s.sampleCount }
  ⟨.ok s.sampleCount, committed, ⟨session.cache.commit, metrics, calls⟩,
    session.events ++ [.scrapeWritten s.source s.collectedAt s.families.length s.sampleCount]⟩

/-- How a write that fails ends: the store from before and a cache rolled back. -/
def giveUp (failure : Failure) (store : Store) (w : Writer) (s : Scrape) (session : Session)
    (calls : Nat) : Outcome :=
  let cache := session.cache.rollback
  if failure.isHandled then
    let metrics := { w.metrics with
      scrapesFailed := w.metrics.scrapesFailed + 1
      samplesLost := w.metrics.samplesLost + s.sampleCount }
    ⟨.ok 0, store, ⟨cache, metrics, calls⟩,
      session.events ++ [.writeFailed s.source s.collectedAt s.sampleCount failure.name]⟩
  else ⟨.error failure, store, ⟨cache, w.metrics, calls⟩, session.events⟩

def conclude (store : Store) (w : Writer) (s : Scrape) : Except Failure Store × Draft → Outcome
  | (.ok committed, t) => keep committed w s t.session t.calls
  | (.error failure, t) => giveUp failure store w s t.session t.calls

theorem write_eq (d : Disruption) (store : Store) (w : Writer) (s : Scrape) :
    write d store w s = conclude store w s (transact d store w s) := by
  unfold write conclude keep giveUp
  rcases transact d store w s with ⟨_ | _, t⟩ <;> rfl

theorem write_store {d : Disruption} {w : Writer} {s : Scrape} {committed : Store}
    (h : (transact d store w s).1 = .ok committed) : (write d store w s).store = committed := by
  rw [write_eq]
  generalize transact d store w s = t at h
  obtain ⟨result, t⟩ := t
  simp only at h
  subst h
  rfl

/-- A write that breaks off inside the call that follows so many calls, when the metric and so many
label pairs of the request are in the cache. -/
def breakOff (failure : Failure) (calls pairs : Nat) (store : Store) (w : Writer) (s : Scrape) :
    Outcome :=
  let t := (draft .none s (opened store w) ((requests s).take calls)).2
  match (requests s)[calls]? with
  | none => giveUp failure store w s t.session t.calls
  | some (r, _) =>
    giveUp failure store w s ((t.session.resolveMetric r).2.resolveLabels (r.labels.take pairs)).2
      (t.calls + 1)

structure Kept (store : Store) (w : Writer) (s : Scrape) (o : Outcome) : Prop where
  result : o.result = .ok s.sampleCount
  metrics : o.writer.metrics = { w.metrics with
    scrapesWritten := w.metrics.scrapesWritten + 1
    samplesWritten := w.metrics.samplesWritten + s.sampleCount }
  grown : store.Extends o.store
  settled : o.writer.cache.Settled o.store
  added : Added store o.store s

/-- A write of which nothing is left but its mention in the counters, and that only where the
failure is handled. -/
structure Lost (failure : Failure) (store : Store) (w : Writer) (s : Scrape) (o : Outcome) :
    Prop where
  result : o.result = if failure.isHandled then .ok 0 else .error failure
  metrics : o.writer.metrics = if failure.isHandled then
      { w.metrics with
        scrapesFailed := w.metrics.scrapesFailed + 1
        samplesLost := w.metrics.samplesLost + s.sampleCount }
    else w.metrics
  store : o.store = store
  cache : o.writer.cache = w.cache

variable {w : Writer}

theorem Kept.counted {s : Scrape} {o : Outcome} (h : Kept store w s o) :
    o.writer.metrics.scrapesWritten = w.metrics.scrapesWritten + 1 := by
  rw [h.metrics]

theorem Lost.uncounted {failure : Failure} {s : Scrape} {o : Outcome}
    (h : Lost failure store w s o) :
    o.writer.metrics.scrapesWritten = w.metrics.scrapesWritten := by
  rw [h.metrics]
  split <;> rfl

theorem giveUp_lost (failure : Failure) (s : Scrape) {session : Session} (calls : Nat)
    (h : session.Within store w.cache) :
    Lost failure store w s (giveUp failure store w s session calls) := by
  unfold giveUp
  cases hf : failure.isHandled with
  | true => exact ⟨by simp [hf], by simp [hf], rfl, h.rollback⟩
  | false => exact ⟨by simp [hf], by simp [hf], rfl, h.rollback⟩

theorem write_kept {d : Disruption} {s : Scrape} (hb : store.WellFormed)
    (hc : w.cache.Settled store) {committed : Store}
    (h : (transact d store w s).1 = .ok committed) : Kept store w s (write d store w s) := by
  obtain ⟨hw, hadded⟩ := transact_sound d s hb hc
  obtain ⟨hg, hadded⟩ := hadded committed h
  rw [write_eq]
  generalize transact d store w s = t at h hw hg ⊢
  obtain ⟨result, t⟩ := t
  simp only at h
  subst h
  exact ⟨rfl, rfl, hw.grown.trans hg, hw.commit_settled.mono hw.wellFormed hg, hadded⟩

theorem write_lost {d : Disruption} {s : Scrape} (hb : store.WellFormed)
    (hc : w.cache.Settled store) {failure : Failure}
    (h : (transact d store w s).1 = .error failure) :
    Lost failure store w s (write d store w s) := by
  have hw := (transact_sound d s hb hc).1
  rw [write_eq]
  generalize transact d store w s = t at h hw ⊢
  obtain ⟨result, t⟩ := t
  simp only at h
  subst h
  exact giveUp_lost failure s t.calls hw

theorem breakOff_lost (failure : Failure) (calls pairs : Nat) (s : Scrape) (hb : store.WellFormed)
    (hc : w.cache.Settled store) :
    Lost failure store w s (breakOff failure calls pairs store w s) := by
  have htake : ∀ q ∈ (requests s).take calls, q ∈ requests s := fun _ => List.mem_of_mem_take
  have hw := (requests_draft .none s htake hb hc).1
  unfold breakOff
  simp only
  split
  · exact giveUp_lost failure s _ hw
  · rename_i r _ _
    have hmetric := (Session.resolveMetric_sound hw r).1
    exact giveUp_lost failure s _ (Session.resolveLabels_sound _ hmetric).1

/-- A write is kept unless it meets a failure, and then the first one decides how it is lost. -/
theorem write_cases (d : Disruption) (s : Scrape) (hb : store.WellFormed)
    (hc : w.cache.Settled store) :
    match d.first? w.calls (requests s).length with
    | none => Kept store w s (write d store w s)
    | some failure => Lost failure store w s (write d store w s) := by
  have hfirst := fun failure => @transact_error_iff store w d s hb hc failure
  cases h : (transact d store w s).1 with
  | ok committed =>
    have hnone : d.first? w.calls (requests s).length = none := by
      refine Option.eq_none_iff_forall_ne_some.mpr fun failure hf => ?_
      rw [(hfirst failure).mpr hf] at h
      cases h
    rw [hnone]
    exact write_kept hb hc h
  | error failure =>
    rw [(hfirst failure).mp h]
    exact write_lost hb hc h

end Writer

end MetricArchive
