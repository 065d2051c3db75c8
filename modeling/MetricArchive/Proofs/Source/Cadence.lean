import Mathlib.Data.List.Range
import MetricArchive.Proofs.Number.Rounding
import MetricArchive.Source.Periodic

/-!
# The cadence of a source

Time is taken as exact here. The schedule keeps a due time beside the clock; at the start of a tick
the two agree, whatever mix of fast and slow ticks came before. So the ticks of a run are the first
ones of a timetable that does not depend on when the source is told to stop. Main statement: a tick
starts one interval after the one before it, or as soon as that one is over if it takes longer; what
exceeds the interval is reported; no tick starts once the source has been told to stop, and whatever
the ticks before that have fetched is handed over.
-/
namespace MetricArchive

section Quiet

def Event.isOverrun : Event → Bool
  | .scrapeOverrun .. => true
  | _ => false

def Quiet (events : List Event) : Prop := ∀ e ∈ events, ¬ e.isOverrun

theorem Quiet.append {l m : List Event} (hl : Quiet l) (hm : Quiet m) : Quiet (l ++ m) :=
  fun e he => (List.mem_append.mp he).elim (hl e) (hm e)

theorem Quiet.filter {l : List Event} (h : Quiet l) : l.filter Event.isOverrun = [] :=
  List.filter_eq_nil_iff.mpr h

theorem quiet_nil : Quiet [] := fun _ he => nomatch he

theorem quiet_singleton {e : Event} (h : ¬ e.isOverrun) : Quiet [e] := by
  simpa [Quiet] using h

theorem Exposition.Assembly.quiet_add {a b : Assembly} {line : ℕ} {content : LineContent}
    (h : a.add line content = .ok b) (ha : Quiet a.events) : Quiet b.events := by
  cases content with
  | nothing | sample =>
    cases h
    exact ha
  | help metric text =>
    simp only [add] at h
    split at h <;> cases h
    refine ha.append ?_
    split_ifs
    exacts [quiet_singleton nofun, quiet_nil]
  | kind metric word =>
    simp only [add] at h
    repeat' split at h
    all_goals cases h
    · exact ha.append (quiet_singleton nofun)
    · exact ha.append quiet_nil

theorem Exposition.Assembly.quiet_feed {constants : Labels} {a b : Assembly} {n : ℕ}
    {raw : List Char} (h : a.feed constants n raw = .ok b) (ha : Quiet a.events) :
    Quiet b.events := by
  unfold feed at h
  cases hread : readLine constants raw with
  | error e => simp [hread, Except.bind] at h
  | ok content =>
    cases hadd : a.add n content with
    | error e => simp [hread, Except.bind, hadd] at h
    | ok c =>
      simp only [hread, Except.bind, hadd, Except.ok.injEq] at h
      exact quiet_add (h ▸ hadd) ha

theorem Exposition.Assembly.quiet_feedAll (constants : Labels) (lines : List (ℕ × List Char))
    {a : Assembly} (ha : Quiet a.events) : Quiet (a.feedAll constants lines).1.events := by
  induction lines generalizing a with
  | nil => exact ha
  | cons l rest ih =>
    obtain ⟨n, raw⟩ := l
    simp only [feedAll]
    cases hfeed : a.feed constants n raw with
    | error e => exact ha
    | ok b => exact ih (quiet_feed hfeed ha)

theorem Exposition.quiet_readBytes (constants : Labels) (bytes : List UInt8) :
    Quiet (readBytes constants bytes).events := by
  unfold readBytes
  split
  · rename_i text _
    have hquiet := @Assembly.quiet_feedAll constants (Text.numberedLines text) .empty quiet_nil
    unfold read
    split <;> simpa [*] using hquiet
  · exact quiet_nil

theorem Attempt.quiet_ofReading (name : String) (now : Moment) {r : Exposition.Reading}
    (h : Quiet r.events) : Quiet (ofReading name now r).events := by
  unfold ofReading
  split
  · exact h
  · exact h.append (quiet_singleton nofun)
  · exact h.append (quiet_singleton nofun)

theorem Periodic.quiet_received (p : Periodic) (now : Moment) (asked : HttpUrl) (r : Reply) :
    Quiet (p.received now asked r).events := by
  unfold received
  rcases r.redirectFault? asked with _ | f | f
  · cases r.content with
    | error f => exact quiet_singleton nofun
    | ok content =>
      simp only
      split_ifs
      · exact Attempt.quiet_ofReading _ _ (Exposition.quiet_readBytes _ _)
      · exact quiet_singleton nofun
  · exact quiet_singleton nofun
  · exact quiet_nil

/-- What a tick comes to says nothing about the schedule. -/
theorem Periodic.quiet_attempt (p : Periodic) (now : Moment) (fetched : FetchResult) :
    Quiet (p.attempt now fetched).events := by
  unfold Periodic.attempt
  cases p.address with
  | error f => exact quiet_nil
  | ok asked =>
    cases fetched with
    | reply r => exact p.quiet_received now asked r
    | unsendable | unexpected => exact quiet_nil
    | timeout | transport => exact quiet_singleton nofun

end Quiet

/-- The scrapes that a run hands over are those of its ticks, each of them once. -/
theorem Periodic.scrapes_ticksFrom {τ : Type} [LT τ] [DecidableLT τ] [Add τ] [Sub τ]
    (p : Periodic) (interval : τ) (w : Surroundings τ) (count k scrapes : ℕ) (now due : τ) :
    let run := p.ticksFrom interval w count k scrapes now due
    run.scrapes = run.ticks.filterMap (·.attempt.scrape?) := by
  induction count generalizing k scrapes now due with
  | zero => rfl
  | succ count ih =>
    rw [ticksFrom]
    generalize p.attempt (w.clock now) (w.fetch k).2 = attempt
    have hone : ∀ behind : Option τ, attempt.scrape?.toList =
        [(⟨now, attempt, behind⟩ : Tick τ)].filterMap (·.attempt.scrape?) := by
      intro behind
      cases hscrape : attempt.scrape? <;> simp [hscrape]
    dsimp only
    split
    · rfl
    · split
      · exact hone none
      · split
        · exact hone _
        · rw [hone, ih, ← List.filterMap_append]
          rfl

theorem Periodic.isReachable_of_attempt {p : Periodic} {now : Moment} {fetched : FetchResult}
    (h : (p.attempt now fetched).failure? = none) : p.isReachable = true := by
  unfold attempt at h
  unfold isReachable
  split at h
  · cases h
  · rename_i u hu
    rw [hu]

/-- Between the end of a tick and the start of the next one the source is told to stop just if it
has been told by then. -/
theorem StopRule.isSome_within? (r : StopRule ℚ) (scrapes : ℕ) {ready due : ℚ} (h : ready ≤ due) :
    (r.within? scrapes ready due).isSome = r.isSet scrapes due := by
  obtain ⟨time, limit⟩ := r
  unfold within? isSet
  cases time with
  | none => cases (decide (0 < scrapes) && limit.any (· ≤ scrapes)) <;> simp
  | some stop =>
    by_cases hready : ready < stop
    · cases (decide (0 < scrapes) && limit.any (· ≤ scrapes)) <;>
        by_cases hdue : due < stop <;> simp [hready, hdue, Option.filter]
    · have hdue : ¬ due < stop := fun hd => hready (h.trans_lt hd)
      simp [hready, hdue]

/-- How long a tick takes until whoever receives its scrape, if it has one, has dealt with it. -/
def Surroundings.busy (w : Surroundings ℚ) (k : ℕ) (a : Attempt) : ℚ :=
  (w.fetch k).1 + if a.scrape?.isSome then w.handling k else 0

/-- The source ends with a tick that failed altogether, and with the last one that it may make. -/
def Periodic.EndsWith (p : Periodic) (k : ℕ) (a : Attempt) : Prop :=
  a.failure?.isSome ∨ ∃ n ∈ p.limit, n ≤ k + 1

theorem Periodic.endsWith_iff {p : Periodic} {k : ℕ} {a : Attempt} :
    (a.failure?.isSome || p.limit.any (· ≤ (k + 1 : Int))) = true ↔ p.EndsWith k a := by
  simp [EndsWith, Option.any_eq_true]

instance (p : Periodic) (k : ℕ) (a : Attempt) : Decidable (p.EndsWith k a) :=
  decidable_of_iff _ Periodic.endsWith_iff

structure Timetable where
  source : Periodic
  interval : ℚ
  around : Surroundings ℚ
  start : ℚ

namespace Timetable

variable (t : Timetable)

def attempt (k : ℕ) (now : ℚ) : Attempt :=
  t.source.attempt (t.around.clock now) (t.around.fetch k).2

def next (k : ℕ) (now : ℚ) : ℚ := now + max t.interval (t.around.busy k (t.attempt k now))

def startOf : ℕ → ℚ
  | 0 => t.start
  | k + 1 => t.next k (startOf k)

def attemptOf (k : ℕ) : Attempt := t.attempt k (t.startOf k)

/-- How many scrapes are handed over before a tick. -/
def handed : ℕ → ℕ
  | 0 => 0
  | k + 1 => if (t.attemptOf k).scrape?.isSome then handed k + 1 else handed k

def excess? (k : ℕ) : Option ℚ :=
  let busy := t.around.busy k (t.attemptOf k)
  if t.interval < busy then some (busy - t.interval) else none

def tick (k : ℕ) : Tick ℚ :=
  ⟨t.startOf k, t.attemptOf k,
    if t.source.EndsWith k (t.attemptOf k) then none else t.excess? k⟩

def isStopped (k : ℕ) : Bool := t.around.stop.isSet (t.handed k) (t.startOf k)

/-- The ticks from one on, at most as many as a given number. -/
def runFrom (count k : ℕ) : TickRun ℚ :=
  t.source.ticksFrom t.interval t.around count k (t.handed k) (t.startOf k) (t.startOf k)

variable {t : Timetable} {k : ℕ}

theorem startOf_succ (k : ℕ) :
    t.startOf (k + 1) = t.startOf k + max t.interval (t.around.busy k (t.attemptOf k)) :=
  rfl

theorem handed_succ (k : ℕ) : t.handed (k + 1) =
    if (t.attemptOf k).scrape?.isSome then t.handed k + 1 else t.handed k :=
  rfl

section Step

variable (t k)

def readyOf : ℚ := t.startOf k + t.around.busy k (t.attemptOf k)

theorem readyOf_eq : (if (t.attemptOf k).scrape?.isSome then
      t.startOf k + (t.around.fetch k).1 + t.around.handling k
    else t.startOf k + (t.around.fetch k).1) = t.readyOf k := by
  unfold readyOf Surroundings.busy
  split_ifs <;> ring

theorem due_eq : (if t.startOf k + t.interval < t.readyOf k then t.readyOf k
    else t.startOf k + t.interval) = t.startOf (k + 1) := by
  rw [startOf_succ, ← max_add_add_left, max_comm, ← readyOf, max_def_lt']

theorem excess_eq : (if t.startOf k + t.interval < t.readyOf k then
      some (t.readyOf k - (t.startOf k + t.interval)) else none) = t.excess? k := by
  simp only [readyOf, excess?, add_lt_add_iff_left, add_sub_add_left_eq_sub]

theorem readyOf_le : t.readyOf k ≤ t.startOf (k + 1) :=
  add_le_add_right (le_max_right _ _) _

end Step

theorem runFrom_of_isStopped (count : ℕ) (h : t.isStopped k) : (t.runFrom count k).ticks = [] := by
  cases count with
  | zero => rfl
  | succ count =>
    rw [runFrom, Periodic.ticksFrom]
    exact congrArg TickRun.ticks (if_pos h)

theorem runFrom_succ (count : ℕ) (h : ¬ t.isStopped k) : (t.runFrom (count + 1) k).ticks =
    t.tick k ::
      if t.source.EndsWith k (t.attemptOf k) then [] else (t.runFrom count (k + 1)).ticks := by
  rw [runFrom, Periodic.ticksFrom]
  refine (congrArg TickRun.ticks (if_neg h)).trans ?_
  simp only [show t.source.attempt (t.around.clock (t.startOf k)) (t.around.fetch k).2 =
    t.attemptOf k from rfl]
  by_cases hend : t.source.EndsWith k (t.attemptOf k)
  · rw [if_pos (Periodic.endsWith_iff.mpr hend), if_pos hend, tick, if_pos hend]
  · have hreach : t.source.isReachable = true :=
      Periodic.isReachable_of_attempt (Option.not_isSome_iff_eq_none.mp (not_or.mp hend).1)
    have hwithin := t.around.stop.isSome_within? (t.handed (k + 1)) (t.readyOf_le k)
    rw [if_neg (mt Periodic.endsWith_iff.mp hend), if_neg hend, tick, if_neg hend]
    simp only [hreach, if_true, readyOf_eq, due_eq, excess_eq, ← handed_succ, add_sub_cancel]
    cases hstop : t.around.stop.within? (t.handed (k + 1)) (t.readyOf k) (t.startOf (k + 1)) with
    | none => rfl
    | some stopped =>
      rw [hstop] at hwithin
      rw [runFrom_of_isStopped count hwithin.symm]

/-- What has to be the case for a tick to be made, counted from a tick on. -/
def Makes (t : Timetable) (count k i : ℕ) : Prop :=
  i < count ∧ (∀ j < i + 1, ¬ t.isStopped (k + j)) ∧
    ∀ j < i, ¬ t.source.EndsWith (k + j) (t.attemptOf (k + j))

theorem makes_zero (count k : ℕ) : t.Makes (count + 1) k 0 ↔ ¬ t.isStopped k := by
  simp [Makes]

theorem makes_succ (count k i : ℕ) : t.Makes (count + 1) k (i + 1) ↔
    ¬ t.isStopped k ∧ ¬ t.source.EndsWith k (t.attemptOf k) ∧ t.Makes count (k + 1) i := by
  have hstops := Nat.forall_lt_succ_left (n := i + 1) (p := fun j => ¬ t.isStopped (k + j))
  have hends := Nat.forall_lt_succ_left (n := i)
    (p := fun j => ¬ t.source.EndsWith (k + j) (t.attemptOf (k + j)))
  simp only [Nat.add_zero, ← Nat.add_assoc] at hstops hends
  simp only [Makes, hstops, hends, Nat.add_right_comm k 1]
  constructor
  · rintro ⟨hi, ⟨hstop, hrest⟩, hend, hgo⟩
    exact ⟨hstop, hend, Nat.lt_of_succ_lt_succ hi, hrest, hgo⟩
  · rintro ⟨hstop, hend, hi, hrest, hgo⟩
    exact ⟨Nat.succ_lt_succ hi, ⟨hstop, hrest⟩, hend, hgo⟩

/-- The ticks of a run are the first ones of the timetable. -/
theorem getElem?_runFrom (count k i : ℕ) (u : Tick ℚ) :
    (t.runFrom count k).ticks[i]? = some u ↔ t.Makes count k i ∧ u = t.tick (k + i) := by
  induction count generalizing k i with
  | zero => simp [runFrom, Periodic.ticksFrom, Makes]
  | succ count ih =>
    by_cases hstop : t.isStopped k
    · rw [runFrom_of_isStopped _ hstop]
      simp only [List.getElem?_nil, reduceCtorEq, false_iff, not_and]
      exact fun hmakes => absurd hstop (hmakes.2.1 0 i.succ_pos)
    rw [runFrom_succ count hstop]
    cases i with
    | zero => simp [makes_zero, hstop, eq_comm]
    | succ i =>
      rw [List.getElem?_cons_succ, makes_succ, ← Nat.add_assoc, Nat.add_right_comm k i, and_assoc,
        and_assoc, ← ih]
      split_ifs with hend <;> simp [hstop, hend]

end Timetable

section Run

def handedOver (ticks : List (Tick ℚ)) : ℕ := (ticks.filterMap (·.attempt.scrape?)).length

def Surroundings.dueAfter (w : Surroundings ℚ) (interval start : ℚ) (ticks : List (Tick ℚ)) : ℚ :=
  ticks.getLast?.elim start fun u =>
    u.start + max interval (w.busy (ticks.length - 1) u.attempt)

def Tick.overruns (p : Periodic) (u : Tick ℚ) : List Event :=
  (u.events Binary64.showSeconds p.url).filter Event.isOverrun

/-- The ticks of a run, at most as many as a given number, keep the cadence of their source. A tick
that the source ends with has nothing to be late for. -/
structure Periodic.Keeps (p : Periodic) (interval : ℚ) (w : Surroundings ℚ) (start : ℚ)
    (count : ℕ) (ticks : List (Tick ℚ)) : Prop where
  first : ∀ u ∈ ticks[0]?, u.start = start
  next : ∀ k, ∀ u ∈ ticks[k]?, ∀ v ∈ ticks[k + 1]?,
    v.start = u.start + max interval (w.busy k u.attempt)
  fetched : ∀ k, ∀ u ∈ ticks[k]?, u.attempt = p.attempt (w.clock u.start) (w.fetch k).2
  late : ∀ k, ∀ u ∈ ticks[k]?, ¬ p.EndsWith k u.attempt → interval < w.busy k u.attempt →
    ∃ x, u.overruns p = [.scrapeOverrun p.url x] ∧
      x.IsMilliseconds (w.busy k u.attempt - interval) ∧
      ∀ b : Binary64, b.toRat? = some (w.busy k u.attempt - interval) → b.roundPlaces 3 = x
  inTime : ∀ k, ∀ u ∈ ticks[k]?, w.busy k u.attempt ≤ interval → u.overruns p = []
  last : ∀ k, ∀ u ∈ ticks[k]?, p.EndsWith k u.attempt → u.overruns p = [] ∧ ticks.length = k + 1
  running : ∀ k, ∀ u ∈ ticks[k]?, ¬ w.stop.isSet (handedOver (ticks.take k)) u.start
  ended : ticks.length < count → (∃ k, ∃ u ∈ ticks[k]?, p.EndsWith k u.attempt) ∨
    w.stop.isSet (handedOver ticks) (w.dueAfter interval start ticks)

variable {t : Timetable} {k count : ℕ} {u : Tick ℚ}

theorem Timetable.attempt_tick (t : Timetable) (k : ℕ) : (t.tick k).attempt = t.attemptOf k := rfl

theorem Timetable.overruns_tick (t : Timetable) (k : ℕ) : (t.tick k).overruns t.source =
    (if t.source.EndsWith k (t.attemptOf k) then none else t.excess? k).elim []
      fun b => [.scrapeOverrun t.source.url (Binary64.showSeconds b)] := by
  have hquiet : Quiet (t.attemptOf k).events := t.source.quiet_attempt _ _
  rw [Tick.overruns, Tick.events, List.filter_append, attempt_tick, hquiet.filter, List.nil_append,
    tick]
  cases if t.source.EndsWith k (t.attemptOf k) then none else t.excess? k <;> rfl

theorem Timetable.mem_run_iff : u ∈ (t.runFrom count 0).ticks[k]? ↔
    (k < count ∧ (∀ j ≤ k, ¬ t.isStopped j) ∧ ∀ j < k, ¬ t.source.EndsWith j (t.attemptOf j)) ∧
      u = t.tick k := by
  rw [Option.mem_def, t.getElem?_runFrom]
  simp only [Makes, Nat.zero_add, Nat.lt_succ_iff]

theorem Timetable.getElem?_of_lt (h : k < (t.runFrom count 0).ticks.length) :
    (t.runFrom count 0).ticks[k]? = some (t.tick k) := by
  have hmem := List.getElem?_eq_getElem h
  rw [(mem_run_iff.mp hmem).2] at hmem
  exact hmem

theorem Timetable.handedOver_take (h : k ≤ (t.runFrom count 0).ticks.length) :
    handedOver ((t.runFrom count 0).ticks.take k) = t.handed k := by
  induction k with
  | zero => rfl
  | succ k ih =>
    have hk := ih (Nat.le_of_succ_le h)
    unfold handedOver at hk ⊢
    rw [List.take_add_one, getElem?_of_lt h, List.filterMap_append, List.length_append, hk,
      handed_succ]
    cases hscrape : (t.attemptOf k).scrape? <;> simp [attempt_tick, hscrape]

theorem Timetable.dueAfter_run (t : Timetable) (count : ℕ) :
    t.around.dueAfter t.interval t.start (t.runFrom count 0).ticks =
      t.startOf (t.runFrom count 0).ticks.length := by
  unfold Surroundings.dueAfter
  rw [List.getLast?_eq_getElem?]
  cases hn : (t.runFrom count 0).ticks.length with
  | zero =>
    rw [List.length_eq_zero_iff.mp hn]
    rfl
  | succ n =>
    rw [Nat.add_sub_cancel, getElem?_of_lt (by omega)]
    rfl

/-- A run that is shorter than it may be has met its last tick, or the source was told to stop. -/
theorem Timetable.ended_of_lt (h : (t.runFrom count 0).ticks.length < count) :
    (∃ j < (t.runFrom count 0).ticks.length, t.source.EndsWith j (t.attemptOf j)) ∨
      t.isStopped (t.runFrom count 0).ticks.length := by
  by_contra hno
  obtain ⟨hends, hstop⟩ := not_or.mp hno
  have hmem : t.tick (t.runFrom count 0).ticks.length ∈
      (t.runFrom count 0).ticks[(t.runFrom count 0).ticks.length]? := by
    refine mem_run_iff.mpr ⟨⟨h, fun j hj => ?_, fun j hj hend => hends ⟨j, hj, hend⟩⟩, rfl⟩
    rcases hj.lt_or_eq with hlt | rfl
    · exact (mem_run_iff.mp (getElem?_of_lt hlt)).1.2.1 j le_rfl
    · exact hstop
  simp at hmem

theorem Timetable.keeps_run (t : Timetable) (count : ℕ) :
    t.source.Keeps t.interval t.around t.start count (t.runFrom count 0).ticks where
  first u hu := by
    rw [(mem_run_iff.mp hu).2]
    rfl
  next k u hu v hv := by
    rw [(mem_run_iff.mp hu).2, (mem_run_iff.mp hv).2]
    rfl
  fetched k u hu := by
    rw [(mem_run_iff.mp hu).2]
    rfl
  late k u hu hend hlate := by
    obtain ⟨-, rfl⟩ := mem_run_iff.mp hu
    rw [attempt_tick] at hend hlate ⊢
    refine ⟨_, ?_, Binary64.isMilliseconds_showSeconds (sub_nonneg.mpr hlate.le),
      fun b hb => Binary64.roundPlaces_of_toRat? hb (sub_pos.mpr hlate)⟩
    rw [overruns_tick, if_neg hend, excess?, if_pos hlate]
    rfl
  inTime k u hu htime := by
    obtain ⟨-, rfl⟩ := mem_run_iff.mp hu
    rw [attempt_tick] at htime
    rw [overruns_tick, excess?, if_neg htime.not_gt, ite_self]
    rfl
  last k u hu hend := by
    obtain ⟨-, rfl⟩ := mem_run_iff.mp hu
    rw [attempt_tick] at hend
    refine ⟨by rw [overruns_tick, if_pos hend]; rfl, ?_⟩
    have hlt : k < (t.runFrom count 0).ticks.length := (List.getElem?_eq_some_iff.mp hu).1
    by_contra hne
    have hnext : k + 1 < (t.runFrom count 0).ticks.length := by omega
    exact (mem_run_iff.mp (getElem?_of_lt hnext)).1.2.2 k k.lt_succ_self hend
  running k u hu := by
    have hlt : k < (t.runFrom count 0).ticks.length := (List.getElem?_eq_some_iff.mp hu).1
    obtain ⟨⟨-, hrunning, -⟩, rfl⟩ := mem_run_iff.mp hu
    rw [handedOver_take hlt.le]
    exact hrunning k le_rfl
  ended h := by
    rcases ended_of_lt h with ⟨j, hj, hend⟩ | hstop
    · exact .inl ⟨j, t.tick j, getElem?_of_lt hj, hend⟩
    · right
      have hall := @handedOver_take t _ count le_rfl
      rw [List.take_length] at hall
      rw [hall, dueAfter_run]
      exact hstop

def Timetable.free (t : Timetable) : Timetable :=
  { t with around := { t.around with stop := ⟨none, none⟩ } }

theorem Timetable.startOf_free (t : Timetable) (k : ℕ) : t.free.startOf k = t.startOf k := by
  induction k with
  | zero => rfl
  | succ k ih =>
    rw [startOf, startOf, ih]
    rfl

theorem Timetable.attemptOf_free (t : Timetable) (k : ℕ) : t.free.attemptOf k = t.attemptOf k := by
  rw [attemptOf, startOf_free]
  rfl

theorem Timetable.tick_free (t : Timetable) (k : ℕ) : t.free.tick k = t.tick k := by
  rw [tick, tick, startOf_free, excess?, excess?, attemptOf_free]
  rfl

theorem Timetable.not_isStopped_free (t : Timetable) (k : ℕ) : ¬ t.free.isStopped k := by
  simp [isStopped, StopRule.isSet, free]

/-- What a source that is told to stop has done until then, it does without being told. -/
theorem Timetable.run_isPrefix_free (t : Timetable) (count : ℕ) :
    (t.runFrom count 0).ticks <+: (t.free.runFrom count 0).ticks := by
  rw [List.prefix_iff_getElem?]
  intro k hk
  obtain ⟨⟨hcount, -, hgo⟩, htick⟩ := mem_run_iff.mp (List.getElem?_eq_getElem hk)
  refine mem_run_iff.mpr ⟨⟨hcount, fun j _ => t.not_isStopped_free j, fun j hj => ?_⟩, ?_⟩
  · rw [attemptOf_free]
    exact hgo j hj
  · rw [htick, tick_free]

/-- Ticks keep their cadence whatever each of them takes. A source that is told to stop starts no
further tick, and it has handed over exactly what its ticks have fetched. -/
theorem ticksFrom_cadence (p : Periodic) (interval : ℚ) (w : Surroundings ℚ) (count : ℕ)
    (start : ℚ) :
    let run := p.ticksFrom interval w count 0 0 start start
    let free := p.ticksFrom interval { w with stop := ⟨none, none⟩ } count 0 0 start start
    p.Keeps interval w start count run.ticks ∧
      run.scrapes = run.ticks.filterMap (·.attempt.scrape?) ∧
      run.ticks <+: free.ticks ∧ run.scrapes <+: free.scrapes := by
  intro run free
  let t : Timetable := ⟨p, interval, w, start⟩
  have hticks : run.ticks <+: free.ticks := t.run_isPrefix_free count
  have hrun : run.scrapes = run.ticks.filterMap (·.attempt.scrape?) :=
    p.scrapes_ticksFrom interval w count 0 0 start start
  have hfree : free.scrapes = free.ticks.filterMap (·.attempt.scrape?) :=
    p.scrapes_ticksFrom interval { w with stop := ⟨none, none⟩ } count 0 0 start start
  refine ⟨t.keeps_run count, hrun, hticks, ?_⟩
  rw [hrun, hfree]
  exact hticks.filterMap _

end Run

end MetricArchive
