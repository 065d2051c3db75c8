import MetricArchive.Proofs.Store.Archive

/-!
# What forgetting changes

A cache remembers only what a look-up would find. So a writer that loses its cache, at any point and
within a transaction too, gives the identifiers that it would have given, in the order in which it
would have given them. Main statements: after any run nothing is staged in a cache and each of its
entries names a row; and a run in which caches get lost has the results and the tables of the run
that keeps them.
-/
namespace MetricArchive

namespace Store.WellFormed

variable {s : Store} {id : Nat}

theorem metricId?_eq (h : s.WellFormed) {name : String} (hm : s.HasMetric name id) :
    s.metricId? name = some id := by
  cases hfound : s.metricId? name with
  | none =>
    obtain ⟨r, hr, hname, -⟩ := hm
    exact absurd hname (ne_name_of_metricId? hfound r hr)
  | some j => rw [h.metric_name_inj (hasMetric_of_metricId? hfound) hm]

theorem labelId?_eq (h : s.WellFormed) {label value : String} (hl : s.HasLabel label value id) :
    s.labelId? label value = some id := by
  cases hfound : s.labelId? label value with
  | none => exact absurd rfl (ne_pair_of_labelId? hfound _ hl)
  | some j => rw [h.label_pair_inj (hasLabel_of_labelId? hfound) hl]

theorem seriesId?_eq (h : s.WellFormed) {metricId : Nat} {labelIds : List Nat}
    (hn : labelIds.Nodup) (hx : s.HasSeries metricId labelIds id) :
    s.seriesId? metricId labelIds = some id := by
  cases hfound : s.seriesId? metricId labelIds with
  | none => exact absurd hx (not_hasSeries_of_seriesId? h hn hfound id)
  | some j =>
    obtain ⟨hj, hmembers⟩ := hasSeries_of_seriesId? h hn hfound
    have hrow := h.seriesLabels _ hj _ hx.1 rfl fun l => (hmembers l).symm.trans (hx.2 l)
    exact congrArg some (congrArg SeriesRow.id hrow)

end Store.WellFormed

namespace Session

def forget (s : Session) : Session := { s with cache := .empty }

def forgetIf (lost : Bool) (s : Session) : Session := if lost then s.forget else s

def resolveLabelsForgetting (lost : Nat → Bool) (s : Session) : Labels → List Nat × Session
  | [] => ([], s)
  | (label, value) :: rest =>
    let (id, s) := (s.forgetIf (lost 0)).resolveLabel label value
    let (ids, s) := resolveLabelsForgetting (fun i => lost (i + 1)) s rest
    (insertId id ids, s)

/-- The series of a request, where the cache may be lost before each look-up: of the metric, of each
label pair and of the series. -/
def resolveForgetting (lost : Nat → Bool) (s : Session) (r : SeriesRequest) :
    Except Failure Nat × Session :=
  match (s.forgetIf (lost 0)).resolveMetric r with
  | (.error e, s) => (.error e, s)
  | (.ok metricId, s) =>
    let (labelIds, s) := s.resolveLabelsForgetting (fun i => lost (i + 1)) r.labels
    (s.forgetIf (lost (r.labels.length + 1))).resolveSeries r metricId labelIds

theorem forgetIf_false (s : Session) : s.forgetIf false = s := rfl

theorem resolveLabelsForgetting_never (s : Session) (labels : Labels) :
    s.resolveLabelsForgetting (fun _ => false) labels = s.resolveLabels labels := by
  induction labels generalizing s with
  | nil => rfl
  | cons p rest ih => simp only [resolveLabelsForgetting, resolveLabels, forgetIf_false, ih]

/-- To lose the cache only before a call is to begin the call without it. -/
theorem resolveForgetting_before (s : Session) (r : SeriesRequest) (lost : Bool) :
    s.resolveForgetting (fun i => lost && i == 0) r = (s.forgetIf lost).resolve r := by
  have hfirst : (lost && 0 == 0) = lost := by simp
  have hlater : ∀ i, (lost && i + 1 == 0) = false := by simp
  rw [resolve_eq, resolveForgetting, hfirst]
  rcases (s.forgetIf lost).resolveMetric r with ⟨e | metricId, s⟩
  · rfl
  · simp only [hlater, forgetIf_false, resolveLabelsForgetting_never]

theorem resolveForgetting_never (s : Session) (r : SeriesRequest) :
    s.resolveForgetting (fun _ => false) r = s.resolve r := resolveForgetting_before s r false

/-- What a step shows to others: its answer, the tables and the reports. -/
def shown {α : Type} (x : α × Session) : α × Session := (x.1, x.2.forget)

/-- Two sessions of one transaction that differ at most in what they remember. -/
structure Twins (base : Store) (s t : Session) : Prop where
  left : ∃ c, s.Within base c
  right : ∃ c, t.Within base c
  same : s.forget = t.forget

variable {base : Store} {c : SeriesCache} {s t : Session}

theorem Within.forget (h : s.Within base c) : s.forget.Within base .empty :=
  { h with
    settled := SeriesCache.empty_settled base
    staged := (SeriesCache.empty_settled _).stagedTrue
    rollback := rfl }

theorem shown_resolveMetric (h : s.Within base c) (r : SeriesRequest) :
    shown (s.resolveMetric r) = shown (s.forget.resolveMetric r) := by
  have hempty : s.forget.cache.metrics.get? r.name = none := rfl
  have hstore : s.forget.store = s.store := rfl
  simp only [resolveMetric, hempty, hstore]
  cases hid : s.cache.metrics.get? r.name with
  | some id =>
    -- the name has one row, so a look-up gives what the cache gave
    rw [h.wellFormed.metricId?_eq (h.hasMetric hid)]
    rfl
  | none =>
    cases s.store.metricId? r.name with
    | some id => rfl
    | none => cases MetricKind.ofName? r.kind <;> rfl

theorem shown_resolveLabel (h : s.Within base c) (label value : String) :
    shown (s.resolveLabel label value) = shown (s.forget.resolveLabel label value) := by
  have hempty : s.forget.cache.labels.get? (label, value) = none := rfl
  have hstore : s.forget.store = s.store := rfl
  simp only [resolveLabel, hempty, hstore]
  cases hid : s.cache.labels.get? (label, value) with
  | some id =>
    rw [h.wellFormed.labelId?_eq (h.hasLabel hid)]
    rfl
  | none => cases s.store.labelId? label value <;> rfl

theorem shown_resolveSeries (h : s.Within base c) (r : SeriesRequest) (metricId : Nat)
    {labelIds : List Nat} (hn : labelIds.Nodup) :
    shown (s.resolveSeries r metricId labelIds) =
      shown (s.forget.resolveSeries r metricId labelIds) := by
  have hempty : s.forget.cache.series.get? (metricId, labelIds) = none := rfl
  have hstore : s.forget.store = s.store := rfl
  simp only [resolveSeries, hempty, hstore]
  cases hid : s.cache.series.get? (metricId, labelIds) with
  | some id =>
    rw [h.wellFormed.seriesId?_eq hn (h.hasSeries hid)]
    rfl
  | none =>
    cases s.store.seriesId? metricId labelIds with
    | some id => rfl
    | none => cases s.store.addSeries? metricId labelIds <;> rfl

namespace Twins

theorem store (h : s.Twins base t) : s.store = t.store := by
  have hsame : s.forget.store = t.forget.store := congrArg Session.store h.same
  exact hsame

theorem events (h : s.Twins base t) : s.events = t.events := by
  have hsame : s.forget.events = t.forget.events := congrArg Session.events h.same
  exact hsame

theorem forgetIf (h : s.Twins base t) (lost : Bool) : s.Twins base (t.forgetIf lost) := by
  cases lost with
  | false => exact h
  | true =>
    obtain ⟨c, ht⟩ := h.right
    exact ⟨h.left, ⟨_, ht.forget⟩, h.same⟩

/-- A step that shows the same with a cache as without one answers both twins alike. -/
theorem step {α : Type} {f : Session → α × Session} (h : s.Twins base t)
    (hf : ∀ c x, x.Within base c → x.store = s.store →
      (f x).2.Within base c ∧ shown (f x) = shown (f x.forget)) :
    (f s).1 = (f t).1 ∧ (f s).2.Twins base (f t).2 := by
  obtain ⟨c, hs⟩ := h.left
  obtain ⟨c', ht⟩ := h.right
  obtain ⟨hs', hshown⟩ := hf c s hs rfl
  obtain ⟨ht', hshown'⟩ := hf c' t ht h.store.symm
  have hsame : shown (f s) = shown (f t) := by rw [hshown, h.same, hshown']
  obtain ⟨hanswer, hforget⟩ := Prod.ext_iff.mp hsame
  exact ⟨hanswer, ⟨c, hs'⟩, ⟨c', ht'⟩, hforget⟩

theorem resolveMetric (h : s.Twins base t) (r : SeriesRequest) :
    (s.resolveMetric r).1 = (t.resolveMetric r).1 ∧
      (s.resolveMetric r).2.Twins base (t.resolveMetric r).2 :=
  h.step fun _ _ hx _ => ⟨(resolveMetric_sound hx r).1, shown_resolveMetric hx r⟩

theorem resolveLabel (h : s.Twins base t) (label value : String) :
    (s.resolveLabel label value).1 = (t.resolveLabel label value).1 ∧
      (s.resolveLabel label value).2.Twins base (t.resolveLabel label value).2 :=
  h.step fun _ _ hx _ => ⟨(resolveLabel_sound hx label value).1, shown_resolveLabel hx label value⟩

theorem resolveLabels (h : s.Twins base t) (lost : Nat → Bool) (labels : Labels) :
    (s.resolveLabels labels).1 = (t.resolveLabelsForgetting lost labels).1 ∧
      (s.resolveLabels labels).2.Twins base (t.resolveLabelsForgetting lost labels).2 := by
  induction labels generalizing s t lost with
  | nil => exact ⟨rfl, h⟩
  | cons p rest ih =>
    obtain ⟨hid, h₁⟩ := (h.forgetIf (lost 0)).resolveLabel p.1 p.2
    obtain ⟨hids, h₂⟩ := ih h₁ fun i => lost (i + 1)
    exact ⟨congrArg₂ insertId hid hids, h₂⟩

theorem resolveSeries (h : s.Twins base t) (r : SeriesRequest) {metricId : Nat}
    {labelIds : List Nat} (hm : s.store.HasMetric r.name metricId)
    (hasc : labelIds.Pairwise (· < ·)) (hl : ∀ l ∈ labelIds, ∃ x ∈ s.store.labels, x.id = l) :
    (s.resolveSeries r metricId labelIds).1 = (t.resolveSeries r metricId labelIds).1 ∧
      (s.resolveSeries r metricId labelIds).2.Twins base
        (t.resolveSeries r metricId labelIds).2 := by
  -- that the rows exist is known of the tables, and those the twins share
  refine @step _ _ _ _ (·.resolveSeries r metricId labelIds) h fun c x hx he => ?_
  rw [← he] at hm hl
  exact ⟨(resolveSeries_sound hx r hm hasc hl).1,
    shown_resolveSeries hx r metricId (hasc.imp Nat.ne_of_lt)⟩

theorem resolve (h : s.Twins base t) (lost : Nat → Bool) (r : SeriesRequest) :
    (s.resolve r).1 = (t.resolveForgetting lost r).1 ∧
      (s.resolve r).2.Twins base (t.resolveForgetting lost r).2 := by
  obtain ⟨c, hs⟩ := h.left
  obtain ⟨hs₁, -, hmetric⟩ := resolveMetric_sound hs r
  obtain ⟨hanswer, h₁⟩ := (h.forgetIf (lost 0)).resolveMetric r
  rw [resolve_eq, resolveForgetting]
  generalize s.resolveMetric r = x at hs₁ hmetric hanswer h₁ ⊢
  generalize (t.forgetIf (lost 0)).resolveMetric r = y at hanswer h₁ ⊢
  obtain ⟨answer, s₁⟩ := x
  obtain ⟨_, t₁⟩ := y
  simp only at hanswer
  subst hanswer
  cases answer with
  | error e => exact ⟨rfl, h₁⟩
  | ok metricId =>
    obtain ⟨-, hg, hasc, hto, -⟩ := resolveLabels_sound r.labels hs₁
    obtain ⟨hids, h₂⟩ := h₁.resolveLabels (fun i => lost (i + 1)) r.labels
    simp only [← hids]
    refine (h₂.forgetIf _).resolveSeries r ((hmetric metricId rfl).mono hg) hasc fun l hl => ?_
    obtain ⟨p, -, hp⟩ := hto l hl
    exact ⟨_, hp, rfl⟩

end Twins

end Session

namespace Writer

/-- Resolves the samples in order until one fails. The cache may be lost before each look-up of each
call and when all calls are made. -/
def draftForgetting (d : Disruption) (lost : Nat → Nat → Bool) (s : Scrape) (t : Draft) :
    List (SeriesRequest × Sample) → Option Failure × Draft
  | [] => (none, { t with session := t.session.forgetIf (lost t.calls 0) })
  | (request, sample) :: rest =>
    match d.resolve t.calls with
    | some failure => (some failure, { t with calls := t.calls + 1 })
    | none =>
      match t.session.resolveForgetting (lost t.calls) request with
      | (.error failure, session) => (some failure, { t with session, calls := t.calls + 1 })
      | (.ok id, session) =>
        let point := ⟨id, (s.timestampOf sample).epochMillis, sample.value⟩
        draftForgetting d lost s ⟨session, t.calls + 1, t.points ++ [point]⟩ rest

def writeForgetting (d : Disruption) (lost : Nat → Nat → Bool) (store : Store) (w : Writer)
    (s : Scrape) : Outcome :=
  let drafted := draftForgetting d lost s (opened store w) (requests s)
  conclude store w s (finish d drafted, drafted.2)

def breakOffForgetting (failure : Failure) (calls pairs : Nat) (lost : Nat → Nat → Bool)
    (store : Store) (w : Writer) (s : Scrape) : Outcome :=
  let t := (draftForgetting .none lost s (opened store w) ((requests s).take calls)).2
  match (requests s)[calls]? with
  | none => giveUp failure store w s t.session t.calls
  | some (r, _) =>
    -- what is lost before the metric is looked up was lost at the end of the draft
    giveUp failure store w s ((t.session.resolveMetric r).2.resolveLabelsForgetting
      (fun i => lost t.calls (i + 1)) (r.labels.take pairs)).2 (t.calls + 1)

theorem draftForgetting_never (d : Disruption) (s : Scrape) (t : Draft)
    (requests : List (SeriesRequest × Sample)) :
    draftForgetting d (fun _ _ => false) s t requests = draft d s t requests := by
  induction requests generalizing t with
  | nil => rfl
  | cons q rest ih =>
    obtain ⟨request, sample⟩ := q
    rw [draftForgetting, draft, Session.resolveForgetting_never]
    cases d.resolve t.calls with
    | some failure => rfl
    | none =>
      rcases t.session.resolve request with ⟨failure | id, session⟩
      · rfl
      · exact ih _

structure Draft.Twins (base : Store) (t u : Draft) : Prop where
  session : t.session.Twins base u.session
  calls : t.calls = u.calls
  points : t.points = u.points

structure Twins (store : Store) (w v : Writer) : Prop where
  metrics : w.metrics = v.metrics
  calls : w.calls = v.calls
  left : w.cache.Settled store
  right : v.cache.Settled store

structure Outcome.Twins (o p : Outcome) : Prop where
  result : o.result = p.result
  store : o.store = p.store
  events : o.events = p.events
  writer : o.writer.Twins o.store p.writer

variable {base store : Store} {w v : Writer} {t u : Draft} {x y : Session}

theorem Twins.opened (h : w.Twins store v) (hb : store.WellFormed) :
    (opened store w).Twins store (opened store v) where
  session := ⟨⟨_, .start hb h.left⟩, ⟨_, .start hb h.right⟩, rfl⟩
  calls := h.calls
  points := rfl

theorem Draft.Twins.draft (h : t.Twins base u) (d : Disruption) (lost : Nat → Nat → Bool)
    (s : Scrape) (requests : List (SeriesRequest × Sample)) :
    (draft d s t requests).1 = (draftForgetting d lost s u requests).1 ∧
      (draft d s t requests).2.Twins base (draftForgetting d lost s u requests).2 := by
  induction requests generalizing t u with
  | nil => exact ⟨rfl, { h with session := h.session.forgetIf _ }⟩
  | cons q rest ih =>
    obtain ⟨request, sample⟩ := q
    have hcalls : t.calls + 1 = u.calls + 1 := congrArg (· + 1) h.calls
    rw [Writer.draft, draftForgetting, h.calls]
    cases d.resolve u.calls with
    | some failure => exact ⟨rfl, { h with calls := rfl }⟩
    | none =>
      obtain ⟨hanswer, hsession⟩ := h.session.resolve (lost u.calls) request
      generalize t.session.resolve request = answered at hanswer hsession ⊢
      generalize u.session.resolveForgetting (lost u.calls) request = answered'
        at hanswer hsession ⊢
      obtain ⟨answer, session⟩ := answered
      obtain ⟨_, session'⟩ := answered'
      simp only at hanswer
      subst hanswer
      cases answer with
      | error failure => exact ⟨rfl, ⟨hsession, rfl, h.points⟩⟩
      | ok id => exact ih ⟨hsession, rfl, congrArg (· ++ [_]) h.points⟩

theorem Draft.Twins.finish (h : t.Twins base u) (d : Disruption) (failure : Option Failure) :
    finish d (failure, t) = finish d (failure, u) := by
  cases failure with
  | some failure => rfl
  | none => simp only [Writer.finish, h.points, h.session.store]

theorem Twins.keep (h : w.Twins store v) (hx : x.Twins store y) {committed : Store}
    (hg : x.store.Extends committed) (s : Scrape) {m n : Nat} (hcalls : m = n) :
    (keep committed w s x m).Twins (keep committed v s y n) := by
  obtain ⟨c, hwithin⟩ := hx.left
  obtain ⟨c', hwithin'⟩ := hx.right
  refine ⟨rfl, rfl, ?_, ?_, hcalls, ?_, ?_⟩
  · simp only [Writer.keep, hx.events]
  · simp only [Writer.keep, h.metrics]
  · exact hwithin.commit_settled.mono hwithin.wellFormed hg
  · rw [hx.store] at hg
    exact hwithin'.commit_settled.mono hwithin'.wellFormed hg

theorem Twins.giveUp (h : w.Twins store v) (hx : x.Twins store y) (failure : Failure) (s : Scrape)
    {m n : Nat} (hcalls : m = n) :
    (giveUp failure store w s x m).Twins (giveUp failure store v s y n) := by
  obtain ⟨c, hwithin⟩ := hx.left
  obtain ⟨c', hwithin'⟩ := hx.right
  have hleft : x.cache.rollback.Settled store := hwithin.rollback ▸ hwithin.settled
  have hright : y.cache.rollback.Settled store := hwithin'.rollback ▸ hwithin'.settled
  unfold Writer.giveUp
  cases failure.isHandled with
  | true =>
    simp only [if_true, h.metrics, hx.events]
    exact ⟨rfl, rfl, rfl, rfl, hcalls, hleft, hright⟩
  | false => exact ⟨rfl, rfl, hx.events, h.metrics, hcalls, hleft, hright⟩

theorem Twins.write (h : w.Twins store v) (hb : store.WellFormed) (d : Disruption)
    (lost : Nat → Nat → Bool) (s : Scrape) :
    (write d store w s).Twins (writeForgetting d lost store v s) := by
  obtain ⟨-, hgrown⟩ := transact_sound d s hb h.left
  obtain ⟨hfailure, hdraft⟩ := (h.opened hb).draft d lost s (requests s)
  rw [write_eq, writeForgetting]
  rw [transact_eq] at hgrown ⊢
  generalize draft d s (Writer.opened store w) (requests s) = drafted at hgrown hfailure hdraft ⊢
  generalize draftForgetting d lost s (Writer.opened store v) (requests s) = drafted'
    at hfailure hdraft ⊢
  obtain ⟨failure?, t⟩ := drafted
  obtain ⟨_, u⟩ := drafted'
  simp only at hfailure
  subst hfailure
  simp only [← hdraft.finish d]
  cases hfinish : finish d (failure?, t) with
  | error failure => exact h.giveUp hdraft.session failure s hdraft.calls
  | ok committed => exact h.keep hdraft.session (hgrown committed hfinish).1 s hdraft.calls

theorem Twins.breakOff (h : w.Twins store v) (hb : store.WellFormed) (failure : Failure)
    (calls pairs : Nat) (lost : Nat → Nat → Bool) (s : Scrape) :
    (breakOff failure calls pairs store w s).Twins
      (breakOffForgetting failure calls pairs lost store v s) := by
  obtain ⟨-, hdraft⟩ := (h.opened hb).draft .none lost s ((requests s).take calls)
  unfold Writer.breakOff breakOffForgetting
  cases (requests s)[calls]? with
  | none => exact h.giveUp hdraft.session failure s hdraft.calls
  | some q =>
    obtain ⟨r, sample⟩ := q
    obtain ⟨-, hmetric⟩ := hdraft.session.resolveMetric r
    obtain ⟨-, hlabels⟩ := hmetric.resolveLabels _ (r.labels.take pairs)
    exact h.giveUp hlabels failure s (congrArg (· + 1) hdraft.calls)

end Writer

namespace Archive

def Attempt.outcomeForgetting (lost : Nat → Nat → Bool) (store : Store) (w : Writer) (s : Scrape) :
    Attempt → Writer.Outcome
  | .disrupted d => Writer.writeForgetting d lost store w s
  | .brokenOff failure calls pairs => Writer.breakOffForgetting failure calls pairs lost store w s

/-- The moves of a run in which caches get lost, between writes and within them. -/
inductive LaxMove where
  | write (writer : Nat) (attempt : Attempt) (lost : Nat → Nat → Bool) (scrape : Scrape)
  | reopen (writer : Nat)
  | clear (writer : Nat)

def LaxMove.kept : LaxMove → List Move
  | .write k attempt _ s => [.write k attempt s]
  | .reopen k => [.reopen k]
  | .clear _ => []

def laxStep (a : Archive) : LaxMove → Archive
  | .write k attempt lost s =>
    let o := attempt.outcomeForgetting lost a.store (a.writers k) s
    ⟨o.store, Function.update a.writers k o.writer⟩
  | .reopen k => a.step (.reopen k)
  | .clear k => a.step (.clear k)

def laxRun (a : Archive) (moves : List LaxMove) : Archive := moves.foldl laxStep a

def returned (a : Archive) : Move → List (Except Failure Nat)
  | .write k attempt s => [(attempt.outcome a.store (a.writers k) s).result]
  | _ => []

def results (a : Archive) : List Move → List (Except Failure Nat)
  | [] => []
  | m :: rest => a.returned m ++ (a.step m).results rest

def laxReturned (a : Archive) : LaxMove → List (Except Failure Nat)
  | .write k attempt lost s => [(attempt.outcomeForgetting lost a.store (a.writers k) s).result]
  | _ => []

def laxResults (a : Archive) : List LaxMove → List (Except Failure Nat)
  | [] => []
  | m :: rest => a.laxReturned m ++ (a.laxStep m).laxResults rest

theorem Attempt.outcomeForgetting_never (attempt : Attempt) (store : Store) (w : Writer)
    (s : Scrape) :
    attempt.outcomeForgetting (fun _ _ => false) store w s = attempt.outcome store w s := by
  cases attempt with
  | disrupted d =>
    rw [outcome, Writer.write_eq, Writer.transact_eq]
    simp only [outcomeForgetting, Writer.writeForgetting, Writer.draftForgetting_never]
  | brokenOff failure calls pairs =>
    simp only [outcome, outcomeForgetting, Writer.breakOff, Writer.breakOffForgetting,
      Writer.draftForgetting_never]
    rcases (Writer.requests s)[calls]? with _ | ⟨r, sample⟩
    · rfl
    · simp only [Session.resolveLabelsForgetting_never]

structure Twins (a b : Archive) : Prop where
  wellFormed : a.store.WellFormed
  store : a.store = b.store
  writers : ∀ k, (a.writers k).Twins a.store (b.writers k)

variable {a b : Archive} {seen : List Observation}

theorem Twins.update (h : a.Twins b) {store : Store} (hw : store.WellFormed)
    (hg : a.store.Extends store) (k : Nat) {w v : Writer} (hwriter : w.Twins store v) :
    Twins ⟨store, Function.update a.writers k w⟩ ⟨store, Function.update b.writers k v⟩ where
  wellFormed := hw
  store := rfl
  writers j := by
    by_cases hj : j = k
    · subst hj
      simpa using hwriter
    · have hold := h.writers j
      simpa [Function.update_of_ne hj] using
        { hold with
          left := hold.left.mono h.wellFormed hg
          right := hold.right.mono h.wellFormed hg }

theorem Twins.outcome (h : a.Twins b) (k : Nat) (attempt : Attempt) (lost : Nat → Nat → Bool)
    (s : Scrape) :
    (attempt.outcome a.store (a.writers k) s).Twins
      (attempt.outcomeForgetting lost b.store (b.writers k) s) := by
  rw [← h.store]
  cases attempt with
  | disrupted d => exact (h.writers k).write h.wellFormed d lost s
  | brokenOff failure calls pairs =>
    exact (h.writers k).breakOff h.wellFormed failure calls pairs lost s

theorem Twins.step (h : a.Twins b) (m : LaxMove) :
    a.results m.kept = b.laxReturned m ∧ (a.run m.kept).Twins (b.laxStep m) := by
  cases m with
  | write k attempt lost s =>
    have ho := h.outcome k attempt lost s
    obtain ⟨hw, hg⟩ := attempt.outcome_grown s h.wellFormed (h.writers k).left
    refine ⟨congrArg (fun result => [result]) ho.result, ?_⟩
    have hnew := h.update hw hg k ho.writer
    simp only [laxStep, ← ho.store]
    exact hnew
  | reopen k =>
    have hnew : Writer.new.Twins a.store .new :=
      ⟨rfl, rfl, SeriesCache.empty_settled _, SeriesCache.empty_settled _⟩
    have hreopened := h.update h.wellFormed (.refl _) k hnew
    refine ⟨rfl, ?_⟩
    simp only [laxStep, Archive.step, ← h.store]
    exact hreopened
  | clear k =>
    have hcleared : (a.writers k).Twins a.store { b.writers k with cache := .empty } :=
      { h.writers k with right := SeriesCache.empty_settled _ }
    have hkept := h.update h.wellFormed (.refl _) k hcleared
    rw [Function.update_eq_self] at hkept
    refine ⟨rfl, ?_⟩
    simp only [laxStep, Archive.step, ← h.store]
    exact hkept

theorem run_append (a : Archive) (ms ns : List Move) :
    a.run (ms ++ ns) = (a.run ms).run ns := List.foldl_append

theorem results_append (a : Archive) (ms ns : List Move) :
    a.results (ms ++ ns) = a.results ms ++ (a.run ms).results ns := by
  induction ms generalizing a with
  | nil => rfl
  | cons m ms ih =>
    have hrest := ih (a.step m)
    simp only [List.cons_append, results, hrest, List.append_assoc]
    rfl

theorem Twins.run (h : a.Twins b) (moves : List LaxMove) :
    a.results (moves.flatMap LaxMove.kept) = b.laxResults moves ∧
      (a.run (moves.flatMap LaxMove.kept)).Twins (b.laxRun moves) := by
  induction moves generalizing a b with
  | nil => exact ⟨rfl, h⟩
  | cons m rest ih =>
    obtain ⟨hreturned, hstep⟩ := h.step m
    obtain ⟨hresults, hrun⟩ := ih hstep
    rw [List.flatMap_cons, results_append, run_append, hreturned, hresults]
    exact ⟨rfl, hrun⟩

theorem Holds.twins (h : a.Holds seen) : a.Twins a where
  wellFormed := h.serves.wellFormed
  store := rfl
  writers k := ⟨rfl, rfl, h.serves.settled k, h.serves.settled k⟩

/-- Whether writers keep their caches or lose them at any point, the same attempts at the same
writes have the same results and leave the same tables. -/
theorem run_forgetting (moves : List LaxMove) :
    empty.laxResults moves = empty.results (moves.flatMap LaxMove.kept) ∧
      (empty.laxRun moves).store = (empty.run (moves.flatMap LaxMove.kept)).store ∧
      ∀ (attempt : Attempt) (store : Store) (w : Writer) (s : Scrape),
        attempt.outcomeForgetting (fun _ _ => false) store w s = attempt.outcome store w s := by
  obtain ⟨hresults, hrun⟩ := empty_holds.twins.run moves
  exact ⟨hresults.symm, hrun.store.symm, Attempt.outcomeForgetting_never⟩

/-- After any run nothing is staged in the cache of a writer, and each entry names a row: the metric
of that name, the label pair, or the series of that metric with exactly those label pairs. -/
theorem run_caches_true (moves : List Move) (k : Nat) :
    let store := (empty.run moves).store
    let cache := ((empty.run moves).writers k).cache
    cache.NothingStaged ∧
      (∀ name id, (name, id) ∈ cache.metrics.committed →
        ∃ r ∈ store.metrics, r.id = id ∧ r.name = name) ∧
      (∀ label value id, ((label, value), id) ∈ cache.labels.committed →
        ⟨id, label, value⟩ ∈ store.labels) ∧
      ∀ metricId labelIds id, ((metricId, labelIds), id) ∈ cache.series.committed →
        ⟨id, metricId⟩ ∈ store.series ∧ ∀ l, l ∈ labelIds ↔ ⟨l, id⟩ ∈ store.members := by
  intro store cache
  have hsettled : cache.Settled store := (empty_holds.run moves).serves.settled k
  refine ⟨hsettled.nothingStaged, fun name id hm => ?_, fun label value id hl => ?_,
    fun metricId labelIds id hx => ?_⟩
  · obtain ⟨r, hr, hname, hid⟩ := hsettled.kept.metric name id hm
    exact ⟨r, hr, hid, hname⟩
  · exact hsettled.kept.label label value id hl
  · exact hsettled.kept.series metricId labelIds id hx

end Archive

end MetricArchive
