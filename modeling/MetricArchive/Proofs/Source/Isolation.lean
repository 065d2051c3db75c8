import MetricArchive.Proofs.Source.Cadence

/-!
# A failed tick costs only itself

A source with a limit that is never told to stop is taken through whatever its fetches come to: they
fail, or they are answered with some status and some payload. A reply that sends elsewhere is not
followed, but the place that it names is looked at, and one that cannot be asked ends the source.
Main statement: unless there is such a reply, every tick is made, and each of them gives the scrape
of its own payload or counts as failed.
-/
namespace MetricArchive

open Exposition

/-- The families of a payload that comes with a success and can be read. -/
def FetchResult.families? (constants : Labels) : FetchResult → Option (List MetricFamily)
  | .reply r =>
    match r.content with
    | .ok content => if r.isSuccess then (readBytes constants content).result.toOption else none
    | .error _ => none
  | _ => none

/-- The payload was neither read nor refused. -/
def Exposition.Reading.breaksDown (r : Reading) : Bool :=
  match r.result with
  | .error (.breakdown _) => true
  | _ => false

/-- The fetch was answered, or failed for a reason that a fetch can have. What comes with a success
is read or refused. -/
def FetchResult.IsOrdinary (constants : Labels) : FetchResult → Prop
  | .reply r => r.isSuccess →
    ∀ content ∈ r.content.toOption, ¬ (readBytes constants content).breaksDown
  | .timeout | .transport .. => True
  | .unsendable _ | .unexpected .. => False

def RedirectFault.isDeadEnd : RedirectFault → Bool
  | .notAddress _ => false
  | .deadEnd _ => true

/-- The reply names an address, but no request can be made for the place that it sends to. -/
def FetchResult.Misleads (asked : HttpUrl) : FetchResult → Prop
  | .reply r => ∃ fault ∈ r.redirectFault? asked, fault.isDeadEnd
  | _ => False

instance (constants : Labels) : (f : FetchResult) → Decidable (f.IsOrdinary constants)
  | .reply r => inferInstanceAs (Decidable (r.isSuccess → _))
  | .timeout | .transport .. => isTrue trivial
  | .unsendable _ | .unexpected .. => isFalse not_false

instance (asked : HttpUrl) : (f : FetchResult) → Decidable (f.Misleads asked)
  | .reply r => inferInstanceAs (Decidable (∃ fault ∈ r.redirectFault? asked, fault.isDeadEnd))
  | .unsendable _ | .timeout | .transport .. | .unexpected .. => isFalse not_false

section Attempts

variable {p : Periodic} {asked : HttpUrl} {now : Moment} {fetched : FetchResult}

/-- Only a reply without success sends elsewhere. -/
theorem Reply.not_isSuccess_of_redirectFault? {r : Reply} {fault : RedirectFault}
    (h : r.redirectFault? asked = some fault) : ¬ r.isSuccess := by
  obtain ⟨location, hlocation, -⟩ := Option.bind_eq_some_iff.mp h
  have hstatus : r.status ∈ [301, 302, 303, 307, 308] := by
    simp only [location?] at hlocation
    split_ifs at hlocation with hgiven
    exact List.elem_iff.mp (Bool.and_eq_true_iff.mp hgiven).1
  simp only [List.mem_cons, List.not_mem_nil, or_false] at hstatus
  simp only [isSuccess, Bool.and_eq_true, decide_eq_true_eq]
  omega

theorem Attempt.scrape?_ofReading (name : String) (r : Reading) :
    (ofReading name now r).scrape? =
      r.result.toOption.map fun families => ⟨now, families, name⟩ := by
  unfold ofReading
  rcases r with ⟨(_ | _) | _, events⟩ <;> rfl

/-- A tick has a scrape exactly if its payload has families, and it is the scrape of its payload. -/
theorem Periodic.scrape?_attempt (hasked : p.address = .ok asked) :
    (p.attempt now fetched).scrape? =
      (fetched.families? p.constants).map fun families => ⟨now, families, p.url⟩ := by
  unfold attempt
  rw [hasked]
  cases fetched with
  | unsendable | timeout | transport | unexpected => rfl
  | reply r =>
    simp only [received, FetchResult.families?]
    cases hfault : r.redirectFault? asked with
    | some fault =>
      simp only [if_neg (Reply.not_isSuccess_of_redirectFault? hfault)]
      cases fault <;> cases r.content <;> rfl
    | none =>
      cases r.content with
      | error f => rfl
      | ok content =>
        simp only
        split_ifs
        · exact Attempt.scrape?_ofReading _ _
        · rfl

theorem Attempt.failure?_ofReading (name : String) {r : Reading} (h : ¬ r.breaksDown) :
    (ofReading name now r).failure? = none := by
  rcases r with ⟨(_ | _) | _, events⟩
  · rfl
  · exact absurd rfl h
  · rfl

/-- Of the ways in which a fetch can end, only a reply that misleads ends the source. -/
theorem Periodic.failure?_attempt (hasked : p.address = .ok asked)
    (h : fetched.IsOrdinary p.constants) :
    (p.attempt now fetched).failure?.isSome ↔ fetched.Misleads asked := by
  unfold attempt
  rw [hasked]
  cases fetched with
  | unsendable | unexpected => exact h.elim
  | timeout | transport => simp [FetchResult.Misleads, Attempt.failure?]
  | reply r =>
    simp only [received, FetchResult.Misleads]
    rcases r.redirectFault? asked with _ | f | f
    · cases hcontent : r.content with
      | error f => simp [Attempt.failure?]
      | ok content =>
        simp only
        split_ifs with hsuccess
        · rw [Attempt.failure?_ofReading _ (h hsuccess content (by rw [hcontent]; rfl))]
          simp
        · simp [Attempt.failure?]
    · simp [Attempt.failure?, RedirectFault.isDeadEnd]
    · simp [Attempt.failure?, RedirectFault.isDeadEnd]

end Attempts

namespace SourceMetrics

theorem ofAttempts_concat (l : List Attempt) (a : Attempt) :
    ofAttempts (l ++ [a]) = (ofAttempts l).count a :=
  List.foldl_concat ..

/-- Attempts that do not end their source succeed or fail. -/
theorem ofAttempts_of_all {l : List Attempt} (h : ∀ a ∈ l, a.failure? = none) :
    (ofAttempts l).attempted = l.length ∧
      (ofAttempts l).succeeded = (l.filterMap (·.scrape?)).length ∧
      (ofAttempts l).attempted = (ofAttempts l).succeeded + (ofAttempts l).failed := by
  induction l using List.reverseRecOn with
  | nil => exact ⟨rfl, rfl, rfl⟩
  | append_singleton l a ih =>
    obtain ⟨hattempted, hsucceeded, hsum⟩ := ih fun b hb => h b (List.mem_append_left _ hb)
    have ha : a.failure? = none := h a (by simp)
    rw [ofAttempts_concat, List.length_append, List.filterMap_append, List.length_append]
    obtain ⟨_ | _ | s, events⟩ := a
    · cases ha
    · simp only [count, Attempt.scrape?, List.filterMap_cons_none, List.filterMap_nil]
      refine ⟨by rw [hattempted]; rfl, hsucceeded, by omega⟩
    · simp only [count]
      refine ⟨by rw [hattempted]; rfl, by rw [hsucceeded]; rfl, by omega⟩

end SourceMetrics

section Run

variable {τ : Type}

/-- Ticks from the `k`-th on, at most as many as the first argument says, of a source that nobody
tells to stop. -/
inductive Periodic.Runs (p : Periodic) (w : Surroundings τ) : ℕ → ℕ → List (Tick τ) → Prop where
  | done (k : ℕ) : Runs p w 0 k []
  | last {count k : ℕ} {t : Tick τ} (ht : t.attempt = p.attempt (w.clock t.start) (w.fetch k).2)
    (hend : p.EndsWith k t.attempt) : Runs p w (count + 1) k [t]
  | next {count k : ℕ} {t : Tick τ} {rest : List (Tick τ)}
    (ht : t.attempt = p.attempt (w.clock t.start) (w.fetch k).2) (hgo : ¬ p.EndsWith k t.attempt)
    (hrest : Runs p w count (k + 1) rest) : Runs p w (count + 1) k (t :: rest)

variable {p : Periodic} {w : Surroundings τ} {count k N : ℕ} {l : List (Tick τ)} {asked : HttpUrl}

theorem Periodic.runs_ticksFrom [LT τ] [DecidableLT τ] [Add τ] [Sub τ] (interval : τ)
    (hstop : w.stop = ⟨none, none⟩) (count k scrapes : ℕ) (now due : τ) :
    p.Runs w count k (p.ticksFrom interval w count k scrapes now due).ticks := by
  induction count generalizing k scrapes now due with
  | zero => exact .done k
  | succ count ih =>
    rw [ticksFrom]
    simp only [hstop, StopRule.isSet, StopRule.within?, Option.any_none, Option.filter_none,
      Bool.and_false, Bool.or_false, Bool.false_eq_true, if_false]
    by_cases hend : p.EndsWith k (p.attempt (w.clock now) (w.fetch k).2)
    · rw [if_pos (endsWith_iff.mpr hend)]
      exact .last rfl hend
    · rw [if_neg (mt endsWith_iff.mp hend)]
      exact .next rfl hend (ih ..)

/-- Each tick has the scrape of its own payload. -/
theorem Periodic.Runs.scrapes (h : p.Runs w count k l) (hasked : p.address = .ok asked) :
    l.filterMap (·.attempt.scrape?) = (l.zipIdx k).filterMap fun (t, i) =>
      ((w.fetch i).2.families? p.constants).map fun families =>
        ⟨w.clock t.start, families, p.url⟩ := by
  induction h with
  | done k => rfl
  | last ht hend =>
    rw [List.filterMap_cons, ht, scrape?_attempt hasked]
    rfl
  | next ht hgo hrest ih =>
    rw [List.filterMap_cons, ht, scrape?_attempt hasked, ih, List.zipIdx_cons, List.filterMap_cons]

/-- What a source that is never told to stop meets: so many ticks are allowed, and each fetch is
answered or fails as fetches do. -/
structure Periodic.Meets (p : Periodic) (w : Surroundings τ) (asked : HttpUrl) (N : ℕ) : Prop where
  asks : p.address = .ok asked
  limit : p.limit = some (N : ℤ)
  unstopped : w.stop = ⟨none, none⟩
  ordinary : ∀ k < N, (w.fetch k).2.IsOrdinary p.constants

namespace Periodic.Meets

variable {now : Moment}

theorem failure?_attempt (h : p.Meets w asked N) (now : Moment) (hk : k < N) :
    (p.attempt now (w.fetch k).2).failure?.isSome ↔ (w.fetch k).2.Misleads asked :=
  p.failure?_attempt h.asks (h.ordinary k hk)

/-- The source ends with a tick just if its reply misleads or its limit is reached. -/
theorem endsWith_attempt (h : p.Meets w asked N) (hk : k < N) :
    p.EndsWith k (p.attempt now (w.fetch k).2) ↔ (w.fetch k).2.Misleads asked ∨ N = k + 1 := by
  rw [EndsWith, h.failure?_attempt now hk, h.limit]
  simp only [Option.mem_def, Option.some.injEq, exists_eq_left']
  refine or_congr_right ?_
  omega

/-- Unless a reply misleads, every tick is made and none of them ends the source. -/
theorem complete (h : p.Meets w asked N) (hplain : ∀ i < N, ¬ (w.fetch i).2.Misleads asked)
    (hl : p.Runs w count k l) (hk : k < N) (hcount : N ≤ k + count) :
    k + l.length = N ∧ ∀ t ∈ l, t.attempt.failure? = none := by
  induction hl with
  | done k => omega
  | @last count k t ht hend =>
    have hfail := (h.failure?_attempt (w.clock t.start) hk).not.mpr (hplain k hk)
    rw [ht, h.endsWith_attempt hk] at hend
    refine ⟨(hend.resolve_left (hplain k hk)).symm, ?_⟩
    simpa [ht] using hfail
  | @next count k t rest ht hgo hrest ih =>
    have hfail := (h.failure?_attempt (w.clock t.start) hk).not.mpr (hplain k hk)
    rw [ht, h.endsWith_attempt hk] at hgo
    obtain ⟨hlength, hnone⟩ := ih (by omega) (by omega)
    refine ⟨by rw [List.length_cons]; omega, List.forall_mem_cons.mpr ⟨?_, hnone⟩⟩
    simpa [ht] using hfail

/-- The first reply that misleads ends the source. -/
theorem misled (h : p.Meets w asked N) {j : ℕ} (hj : j < N)
    (hmisleads : (w.fetch j).2.Misleads asked) (hfirst : ∀ i < j, ¬ (w.fetch i).2.Misleads asked)
    (hl : p.Runs w count k l) (hk : k ≤ j) (hcount : N ≤ k + count) :
    k + l.length = j + 1 ∧ ∃ t ∈ l.getLast?, t.attempt.failure?.isSome := by
  induction hl with
  | done k => omega
  | @last count k t ht hend =>
    rw [ht, h.endsWith_attempt (by omega)] at hend
    obtain rfl : k = j := by
      rcases hend with hmis | hN
      · exact hk.eq_of_not_lt fun hlt => hfirst k hlt hmis
      · omega
    refine ⟨rfl, t, rfl, ?_⟩
    rw [ht, h.failure?_attempt _ hj]
    exact hmisleads
  | @next count k t rest ht hgo hrest ih =>
    rw [ht, h.endsWith_attempt (by omega)] at hgo
    have hlt : k < j := hk.lt_of_ne fun he => hgo (.inl (he ▸ hmisleads))
    obtain ⟨hlength, last, hlast, hfail⟩ := ih hlt (by omega)
    refine ⟨by rw [List.length_cons]; omega, last, ?_, hfail⟩
    rw [List.getLast?_cons, hlast]
    rfl

end Periodic.Meets

/-- Each failed tick costs only itself. -/
structure TickRun.Isolates (run : TickRun τ) (p : Periodic) (w : Surroundings τ)
    (asked : HttpUrl) (N : ℕ) : Prop where
  requests : run.requests p = run.ticks.map fun t => (t.start, asked.requested)
  all : (run.requests p).length = N
  unbroken : run.failure? = none
  scrapes : run.scrapes = run.ticks.zipIdx.filterMap fun (t, k) =>
    ((w.fetch k).2.families? p.constants).map fun families => ⟨w.clock t.start, families, p.url⟩
  counted : SourceMetrics.ofAttempts run.attempts =
    ⟨N, run.scrapes.length, N - run.scrapes.length⟩
  balanced : ∀ n, let m := SourceMetrics.ofAttempts (run.attempts.take n)
    m.attempted = m.succeeded + m.failed

theorem TickRun.requests_eq (run : TickRun τ) (hasked : p.address = .ok asked) :
    run.requests p = run.ticks.map fun t => (t.start, asked.requested) := by
  rw [requests, hasked]

/-- Unless a reply misleads, a run that hands over what its ticks have fetched isolates failures. -/
theorem Periodic.Meets.isolates (h : p.Meets w asked N) (hN : 0 < N) (hcount : N ≤ count)
    (hplain : ∀ k < N, ¬ (w.fetch k).2.Misleads asked) {run : TickRun τ}
    (hrun : p.Runs w count 0 run.ticks)
    (hhanded : run.scrapes = run.ticks.filterMap (·.attempt.scrape?)) :
    run.Isolates p w asked N := by
  obtain ⟨hlength, hnone⟩ := h.complete hplain hrun hN (by omega)
  rw [Nat.zero_add] at hlength
  have hall : ∀ a ∈ run.attempts, a.failure? = none := by
    simpa [TickRun.attempts] using hnone
  obtain ⟨hattempted, hsucceeded, hsum⟩ := SourceMetrics.ofAttempts_of_all hall
  have hcounted : run.attempts.length = N := (List.length_map _).trans hlength
  have hscrapes : run.attempts.filterMap (·.scrape?) = run.scrapes := by
    rw [hhanded, TickRun.attempts, List.filterMap_map]
    rfl
  rw [hscrapes] at hsucceeded
  exact {
    requests := run.requests_eq h.asks
    all := by rw [run.requests_eq h.asks, List.length_map, hlength]
    unbroken := Option.bind_eq_none_iff.mpr fun a ha => hall a (List.mem_of_getLast? ha)
    scrapes := hhanded.trans (hrun.scrapes h.asks)
    counted := by
      have hfailed : (SourceMetrics.ofAttempts run.attempts).failed = N - run.scrapes.length := by
        omega
      rw [← hfailed, ← hcounted, ← hattempted, ← hsucceeded]
    balanced := fun n =>
      (SourceMetrics.ofAttempts_of_all fun a ha => hall a (List.mem_of_mem_take ha)).2.2 }

/-- Every tick is made and each one that fails costs only itself, just if no reply misleads. The
first one that does ends the source; what came before it stays. -/
theorem Periodic.Meets.isolates_iff [LT τ] [DecidableLT τ] [Add τ] [Sub τ]
    (h : p.Meets w asked N) (hN : 0 < N) (hcount : N ≤ count) (interval start : τ) :
    let run := p.ticksFrom interval w count 0 0 start start
    (run.Isolates p w asked N ↔ ∀ k < N, ¬ (w.fetch k).2.Misleads asked) ∧
      ∀ j < N, (w.fetch j).2.Misleads asked → (∀ k < j, ¬ (w.fetch k).2.Misleads asked) →
        (run.requests p).length = j + 1 ∧ run.failure?.isSome ∧
          run.scrapes = run.ticks.zipIdx.filterMap fun (t, k) =>
            ((w.fetch k).2.families? p.constants).map fun families =>
              ⟨w.clock t.start, families, p.url⟩ := by
  intro run
  have hrun : p.Runs w count 0 run.ticks :=
    p.runs_ticksFrom interval h.unstopped count 0 0 start start
  have hhanded : run.scrapes = run.ticks.filterMap (·.attempt.scrape?) :=
    p.scrapes_ticksFrom interval w count 0 0 start start
  have hends : ∀ j < N, (w.fetch j).2.Misleads asked →
      (∀ k < j, ¬ (w.fetch k).2.Misleads asked) →
        (run.requests p).length = j + 1 ∧ run.failure?.isSome := by
    intro j hj hmisleads hfirst
    obtain ⟨hlength, t, hlast, hfail⟩ := h.misled hj hmisleads hfirst hrun j.zero_le (by omega)
    refine ⟨by rw [run.requests_eq h.asks, List.length_map]; omega, ?_⟩
    rw [TickRun.failure?, TickRun.attempts, List.getLast?_map, Option.mem_def.mp hlast]
    exact hfail
  refine ⟨⟨fun hisolates => ?_, fun hplain => h.isolates hN hcount hplain hrun hhanded⟩,
    fun j hj hmisleads hfirst => ?_⟩
  · intro k
    induction k using Nat.strong_induction_on with
    | _ k ih =>
      intro hk hmisleads
      have hfail := (hends k hk hmisleads fun i hi => ih i hi (hi.trans hk)).2
      rw [hisolates.unbroken] at hfail
      cases hfail
  · obtain ⟨hlength, hfail⟩ := hends j hj hmisleads hfirst
    exact ⟨hlength, hfail, hhanded.trans (hrun.scrapes h.asks)⟩

end Run

section Outage

def exporter (limit : ℤ) : Periodic :=
  ⟨"http://exporter/metrics", [], .whole 1, .whole 1, some limit⟩

def exporterUrl : HttpUrl := ⟨"http", "", "exporter", none, "/metrics", none, none⟩

/-- Fetches that come to one thing after another at once, around a clock that counts seconds. -/
def Surroundings.answering (fetched : List FetchResult) : Surroundings ℕ :=
  ⟨fun k => (0, fetched.getD k .timeout), fun _ => 0, ⟨none, none⟩, fun t => ⟨1000000 * t, none⟩⟩

theorem meets_answering {fetched : List FetchResult} {N : ℕ}
    (h : ∀ k < N, ((Surroundings.answering fetched).fetch k).2.IsOrdinary []) :
    (exporter N).Meets (.answering fetched) exporterUrl N where
  asks := by
    have hread : (exporter 0).address = .ok exporterUrl := by decide +kernel
    simpa only [Periodic.address, exporter] using hread
  limit := rfl
  unstopped := rfl
  ordinary := h

def outage : List FetchResult :=
  [.timeout, .reply ⟨200, [], "a 1\n".toUTF8.toList⟩, .reply ⟨500, [], []⟩]

theorem isolates_iff_outage : (exporter 3).Meets (.answering outage) exporterUrl 3 ∧
    ((exporter 3).ticksFrom 1 (.answering outage) 3 0 0 0 0).Isolates (exporter 3)
      (.answering outage) exporterUrl 3 := by
  have hmeets : (exporter 3).Meets (.answering outage) exporterUrl 3 :=
    meets_answering (by decide +kernel)
  exact ⟨hmeets, (hmeets.isolates_iff (by decide) le_rfl 1 0).1.mpr (by decide +kernel)⟩

def detour : List FetchResult :=
  [.reply ⟨302, [("location", "http://xn--/")], []⟩, .reply ⟨200, [], "a 1\n".toUTF8.toList⟩]

/-- Two ticks are allowed, but a first reply that is no success ends the source. It counts neither
as a success nor as a failure, and the payload is never asked for. -/
theorem failure?_detour : (exporter 2).Meets (.answering detour) exporterUrl 2 ∧
    let run := (exporter 2).ticksFrom 1 (.answering detour) 2 0 0 0 0
    run.failure? = some (.hostName .noContent) ∧ (run.requests (exporter 2)).length = 1 ∧
      run.scrapes = [] ∧ SourceMetrics.ofAttempts run.attempts = ⟨1, 0, 0⟩ :=
  ⟨meets_answering (by decide +kernel), by decide +kernel⟩

end Outage

end MetricArchive
