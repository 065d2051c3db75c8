import MetricArchive.Pipeline.Run
import MetricArchive.Proofs.Buffer.History
import MetricArchive.Proofs.Store.Archive

/-!
# Turns of a pipeline

What a turn does depends on where producer and consumer stand; beside the turns there are writes
that break off within a call. Where every attempt comes to a scrape or to a failed one and the store
fails only in ways that a writer handles, nobody ever has to give up, some turn is possible until
the run is complete, and each takes something off a finite weight. Main statement: a schedule that
has every turn brings such a run to its end.
-/
namespace MetricArchive

structure Disruption.Handled (d : Disruption) : Prop where
  resolve : ∀ n failure, d.resolve n = some failure → failure.isHandled = true
  insert : ∀ failure, d.insert = some failure → failure.isHandled = true
  commit : ∀ failure, d.commit = some failure → failure.isHandled = true

theorem Disruption.none_handled : none.Handled := ⟨nofun, nofun, nofun⟩

namespace Session

theorem resolveSeries_error {s : Session} {r : SeriesRequest} {metricId : Nat}
    {labelIds : List Nat} {failure : Failure}
    (h : (s.resolveSeries r metricId labelIds).1 = .error failure) : failure = .integrity := by
  unfold resolveSeries at h
  split at h
  · cases h
  · split at h
    · cases h
    · split at h
      · cases h
        rfl
      · cases h

/-- A request of a known kind fails only for want of a row, whatever the tables hold. -/
theorem resolve_error {s : Session} {r : SeriesRequest} {kind : MetricKind}
    (hk : MetricKind.ofName? r.kind = some kind) {failure : Failure}
    (h : (s.resolve r).1 = .error failure) : failure = .integrity := by
  obtain ⟨id, hid⟩ := resolveMetric_isOk s hk
  rw [resolve_eq] at h
  generalize s.resolveMetric r = answered at h hid
  obtain ⟨answer, session⟩ := answered
  simp only at hid
  subst hid
  exact resolveSeries_error h

end Session

namespace Writer

variable {d : Disruption} {store : Store} {w : Writer} {s : Scrape}

theorem draft_isHandled (hd : d.Handled) {requests : List (SeriesRequest × Sample)}
    (hk : ∀ q ∈ requests, ∃ kind, MetricKind.ofName? q.1.kind = some kind) {t : Draft}
    {failure : Failure} (h : (draft d s t requests).1 = some failure) :
    failure.isHandled = true := by
  induction requests generalizing t with
  | nil => cases h
  | cons q rest ih =>
    obtain ⟨request, sample⟩ := q
    obtain ⟨⟨kind, hkind⟩, hrest⟩ := List.forall_mem_cons.mp hk
    unfold draft at h
    cases hcall : d.resolve t.calls with
    | some early =>
      simp only [hcall, Option.some.injEq] at h
      exact h ▸ hd.resolve _ _ hcall
    | none =>
      simp only [hcall] at h
      have herror := fun failure => @Session.resolve_error t.session request kind hkind failure
      generalize t.session.resolve request = answered at h herror
      obtain ⟨early | id, session⟩ := answered
      · simp only [Option.some.injEq] at h
        rw [← h, herror early rfl]
        rfl
      · exact ih hrest h

def fault? (d : Disruption) (store : Store) (w : Writer) (s : Scrape) : Option Failure :=
  match (transact d store w s).1 with
  | .ok _ => none
  | .error failure => some failure

theorem fault?_isHandled (hd : d.Handled) {failure : Failure}
    (h : fault? d store w s = some failure) : failure.isHandled = true := by
  have hdraft := fun failure => @draft_isHandled d s hd (requests s) (fun q hq => by
    obtain ⟨f, -, -, he⟩ := mem_requests hq
    exact ⟨f.kind, he ▸ f.kind.ofName?_name⟩) (opened store w) failure
  unfold fault? at h
  rw [transact_eq] at h
  generalize draft d s (opened store w) (requests s) = drafted at h hdraft
  obtain ⟨_ | early, t⟩ := drafted
  · simp only [finish] at h
    split at h
    · cases h
    · rename_i _ _ hend
      cases h
      split at hend
      · split at hend
        · cases hend
          exact hd.commit _ ‹_›
        · cases hend
      · split at hend
        · cases hend
          exact hd.insert _ ‹_›
        · cases hend
          rfl
        · cases hend
          exact hd.commit _ ‹_›
        · cases hend
  · simp only [finish, Option.some.injEq] at h
    exact h ▸ hdraft early rfl

/-- What the result and the counters say of a write that met a failure or none. -/
structure Counts (fault : Option Failure) (w : Writer) (s : Scrape) (o : Outcome) : Prop where
  result : o.result =
    match fault with
    | none => .ok s.sampleCount
    | some failure => if failure.isHandled then .ok 0 else .error failure
  metrics : o.writer.metrics =
    match fault with
    | none => { w.metrics with
        scrapesWritten := w.metrics.scrapesWritten + 1
        samplesWritten := w.metrics.samplesWritten + s.sampleCount }
    | some failure => if failure.isHandled then { w.metrics with
        scrapesFailed := w.metrics.scrapesFailed + 1
        samplesLost := w.metrics.samplesLost + s.sampleCount }
      else w.metrics

theorem giveUp_counts (failure : Failure) (session : Session) (calls : Nat) :
    Counts (some failure) w s (giveUp failure store w s session calls) := by
  unfold giveUp
  cases hf : failure.isHandled with
  | true => exact ⟨by simp [hf], by simp [hf]⟩
  | false => exact ⟨by simp [hf], by simp [hf]⟩

theorem write_counts (d : Disruption) (store : Store) (w : Writer) (s : Scrape) :
    Counts (fault? d store w s) w s (write d store w s) := by
  rw [write_eq, fault?]
  rcases transact d store w s with ⟨failure | committed, t⟩
  · exact giveUp_counts failure t.session t.calls
  · exact ⟨rfl, rfl⟩

theorem breakOff_counts (failure : Failure) (calls pairs : Nat) (store : Store) (w : Writer)
    (s : Scrape) : Counts (some failure) w s (breakOff failure calls pairs store w s) := by
  unfold breakOff
  simp only
  split
  · exact giveUp_counts _ _ _
  · exact giveUp_counts _ _ _

end Writer

def Producer.isWell : Producer → Bool
  | .closing (some _) | .ended (some _) => false
  | _ => true

def Consumer.isWell : Consumer → Bool
  | .failed _ | .abandoned _ => false
  | _ => true

def Producer.weight : Producer → Nat
  | .asking => 2
  | .holding _ => 5
  | .closing _ => 1
  | .ended _ => 0

def Consumer.weight : Consumer → Nat
  | .waiting => 2
  | .ready => 1
  | .writing _ => 2
  | _ => 0

namespace Pipeline

inductive Move where
  /-- A turn, with the failures that a write meets in it. -/
  | turn (d : Disruption) (t : Turn)
  /-- The write that has begun breaks off within a call. -/
  | breakOff (failure : Failure) (calls pairs : Nat)

def Move.Handled : Move → Prop
  | .turn d _ => d.Handled
  | .breakOff failure _ _ => failure.isHandled = true

/-- The consumer goes on from what a write came to. -/
def settle (p : Pipeline) (o : Writer.Outcome) : Pipeline :=
  let consumer := match o.result with
    | .ok _ => Consumer.ready
    | .error failure => .failed failure
  { p with writer := o.writer, store := o.store, consumer }.report o.events

def step (p : Pipeline) : Move → Option Pipeline
  | .turn d t => p.next d t
  | .breakOff failure calls pairs =>
    match p.consumer with
    | .writing s => some (p.settle (Writer.breakOff failure calls pairs p.store p.writer s))
    | _ => none

def reach (p : Pipeline) : List Move → Option Pipeline
  | [] => some p
  | m :: rest => (p.step m).bind (reach · rest)

variable {p q : Pipeline} {m : Move} {d : Disruption} {t : Turn}

/-- What a move needs and what it leads to. -/
inductive Effect (p : Pipeline) : Move → Pipeline → Prop where
  | stopped (d : Disruption) : Effect p (.turn d .stop) p.stop
  | attempted (d : Disruption) {a : Attempt} {rest : List Attempt} : p.producer = .asking →
    p.stopping = false → p.ahead = a :: rest → Effect p (.turn d .attempt) (p.attempt a rest)
  | exhausted (d : Disruption) : p.producer = .asking → p.stopping = true ∨ p.ahead = [] →
    Effect p (.turn d .attempt) { p with producer := .closing none }
  | put (d : Disruption) {s : Scrape} {lost : Option Scrape} {b : Buffer Scrape} :
    p.producer = .holding s → p.buffer.put s = some (lost, b) →
    Effect p (.turn d .put)
      ({ p with buffer := b, producer := .asking }.report (Buffer.overflow lost b))
  | closed (d : Disruption) {failure : Option SourceFailure} : p.producer = .closing failure →
    Effect p (.turn d .close) { p with producer := .ended failure, buffer := p.buffer.close }
  | begun (d : Disruption) : p.consumer = .waiting →
    Effect p (.turn d .begin) ({ p with consumer := .ready }.report [.writerStarted])
  | taken (d : Disruption) {s : Scrape} {rest : List Scrape} : p.consumer = .ready →
    p.buffer.queue = s :: rest →
    Effect p (.turn d .take) { p with
      buffer := { p.buffer with
        queue := rest
        metrics := { p.buffer.metrics with popped := p.buffer.metrics.popped + 1 } }
      consumer := .writing s }
  | finished (d : Disruption) : p.consumer = .ready → p.buffer.queue = [] →
    p.buffer.closed = true →
    Effect p (.turn d .take)
      ({ p with consumer := .finished }.report [.writerFinished p.writer.metrics])
  | wrote (d : Disruption) {s : Scrape} : p.consumer = .writing s →
    Effect p (.turn d .write) (p.settle (Writer.write d p.store p.writer s))
  | brokeOff (failure : Failure) (calls pairs : Nat) {s : Scrape} : p.consumer = .writing s →
    Effect p (.breakOff failure calls pairs)
      (p.settle (Writer.breakOff failure calls pairs p.store p.writer s))
  | gaveUp (d : Disruption) : p.mustGiveUp = true → Effect p (.turn d .giveUp) p.abandon

theorem take_effect (hc : p.consumer = .ready) (h : p.take = some q) :
    Effect p (.turn d .take) q := by
  unfold take at h
  cases hq : p.buffer.queue with
  | nil =>
    cases hclosed : p.buffer.closed with
    | true =>
      simp only [Buffer.take, hq, hclosed, if_true, Option.some.injEq] at h
      subst h
      exact .finished d hc hq hclosed
    | false => simp [Buffer.take, hq, hclosed] at h
  | cons s rest =>
    simp only [Buffer.take, hq, Option.some.injEq] at h
    subst h
    exact .taken d hc hq

theorem next_effect (h : p.next d t = some q) : Effect p (.turn d t) q := by
  unfold next at h
  split at h
  · cases h
    exact .stopped d
  · rename_i hp
    split at h
    · cases h
      exact .attempted d hp ‹_› ‹_›
    · rename_i hends
      cases h
      refine .exhausted d hp ?_
      cases hs : p.stopping with
      | true => exact .inl rfl
      | false =>
        rcases ha : p.ahead with _ | ⟨a, rest⟩
        · exact .inr rfl
        · exact absurd ha (hends a rest hs)
  · rename_i s hp
    obtain ⟨⟨lost, b⟩, hput, rfl⟩ := Option.map_eq_some_iff.mp h
    exact .put d hp hput
  · cases h
    exact .closed d ‹_›
  · cases h
    exact .begun d ‹_›
  · exact take_effect ‹_› h
  · cases h
    exact .wrote d ‹_›
  · split at h
    · cases h
      exact .gaveUp d ‹_›
    · cases h
  · cases h

theorem step_effect (h : p.step m = some q) : Effect p m q := by
  cases m with
  | turn d t => exact next_effect h
  | breakOff failure calls pairs =>
    simp only [step] at h
    split at h
    · cases h
      exact .brokeOff failure calls pairs ‹_›
    · cases h

theorem reach_cons {rest : List Move} (h : p.reach (m :: rest) = some q) :
    ∃ middle, p.step m = some middle ∧ Effect p m middle ∧ middle.reach rest = some q := by
  obtain ⟨middle, hstep, hreach⟩ := Option.bind_eq_some_iff.mp h
  exact ⟨middle, hstep, step_effect hstep, hreach⟩

theorem stop_eq (p : Pipeline) : p.stop = { p with stopping := true, log := p.stop.log } := by
  unfold stop
  split <;> rfl

theorem finish_eq (p : Pipeline) (now : Moment) :
    p.finish now = { p with finished := some now, log := (p.finish now).log } := by
  unfold finish
  split <;> rfl

/-- No failure has ended the source or the writer, and none lies ahead. -/
structure Healthy (p : Pipeline) : Prop where
  ahead : ∀ a ∈ p.ahead, a.failure? = none
  attempted : p.source.attempted = p.source.succeeded + p.source.failed
  producer : p.producer.isWell = true
  consumer : p.consumer.isWell = true
  closed : p.buffer.closed = true ↔ p.producer = .ended none
  finished : p.consumer = .finished → p.buffer.closed = true ∧ p.buffer.queue = []

namespace Healthy

theorem new {name : String} {ahead : List Attempt} {buffer : Buffer Scrape} {writer : Writer}
    {store : Store} (ha : ∀ a ∈ ahead, a.failure? = none) (hb : buffer.closed = false) :
    (Pipeline.new name ahead buffer writer store).Healthy where
  ahead := ha
  attempted := rfl
  producer := rfl
  consumer := rfl
  closed := by simp [Pipeline.new, hb]
  finished := nofun

theorem report (h : p.Healthy) (events : List Event) : (p.report events).Healthy := { h with }

theorem start (h : p.Healthy) (now : Moment) : (p.start now).Healthy := { h with }

theorem finish (h : p.Healthy) (now : Moment) : (p.finish now).Healthy := by
  rw [finish_eq]
  exact { h with }

theorem stop (h : p.Healthy) : p.stop.Healthy := by
  rw [stop_eq]
  exact { h with }

theorem open_of_ne (h : p.Healthy) (hp : p.producer ≠ .ended none) : p.buffer.closed = false := by
  simpa using h.closed.not.mpr hp

/-- While the buffer is open the producer may take up anything but its end. -/
theorem produce (h : p.Healthy) {next : Producer} (hp : p.producer ≠ .ended none)
    (hwell : next.isWell = true) (hnext : next ≠ .ended none) :
    { p with producer := next }.Healthy :=
  { h with
    producer := hwell
    closed := by simp [h.open_of_ne hp, hnext] }

theorem count (h : p.Healthy) {a : Attempt} {rest : List Attempt} (ha : p.ahead = a :: rest) :
    { p with ahead := rest, source := p.source.count a }.Healthy := by
  have hahead := h.ahead
  rw [ha] at hahead
  obtain ⟨hfirst, hrest⟩ := List.forall_mem_cons.mp hahead
  have hattempted := h.attempted
  refine { h with ahead := hrest, attempted := ?_ }
  obtain ⟨failure | _ | s, events⟩ := a
  · cases hfirst
  · simp only [SourceMetrics.count]
    omega
  · simp only [SourceMetrics.count]
    omega

theorem attempt (h : p.Healthy) {a : Attempt} {rest : List Attempt} (hp : p.producer = .asking)
    (ha : p.ahead = a :: rest) : (p.attempt a rest).Healthy := by
  have hcounted := (h.count ha).report a.events
  have hfirst := h.ahead a (ha ▸ List.mem_cons_self)
  obtain ⟨failure | _ | s, events⟩ := a
  · cases hfirst
  · exact hcounted
  · have hne : p.producer ≠ .ended none := by simp [hp]
    exact hcounted.produce hne rfl nofun

theorem put (h : p.Healthy) {s : Scrape} {lost : Option Scrape} {b : Buffer Scrape}
    (hp : p.producer = .holding s) (hput : p.buffer.put s = some (lost, b)) :
    { p with buffer := b, producer := .asking }.Healthy := by
  have hopen := h.open_of_ne (by simp [hp])
  have hclosed := (Buffer.put_frame hput).1.trans hopen
  refine { h with
    producer := rfl
    closed := by simp [hclosed]
    finished := fun hc => ?_ }
  have hdone := (h.finished hc).1
  rw [hopen] at hdone
  cases hdone

theorem close (h : p.Healthy) {failure : Option SourceFailure}
    (hp : p.producer = .closing failure) :
    { p with producer := .ended failure, buffer := p.buffer.close }.Healthy := by
  have hwell := h.producer
  rw [hp] at hwell
  cases failure with
  | some failure => cases hwell
  | none =>
    exact { h with
      producer := rfl
      closed := by simp [Buffer.close]
      finished := fun hc => ⟨rfl, (h.finished hc).2⟩ }

theorem take (h : p.Healthy) {s : Scrape} {rest : List Scrape} :
    { p with
      buffer := { p.buffer with
        queue := rest
        metrics := { p.buffer.metrics with popped := p.buffer.metrics.popped + 1 } }
      consumer := .writing s }.Healthy :=
  { h with
    consumer := rfl
    finished := nofun }

theorem settle (h : p.Healthy) {fault : Option Failure} {s : Scrape} {o : Writer.Outcome}
    (ho : Writer.Counts fault p.writer s o)
    (hfault : ∀ failure, fault = some failure → failure.isHandled = true) :
    (p.settle o).Healthy := by
  obtain ⟨n, hn⟩ : ∃ n, o.result = .ok n := by
    rw [ho.result]
    cases fault with
    | none => exact ⟨_, rfl⟩
    | some failure => exact ⟨0, if_pos (hfault failure rfl)⟩
  have hready : { p with writer := o.writer, store := o.store, consumer := .ready }.Healthy :=
    { h with consumer := rfl, finished := nofun }
  unfold Pipeline.settle
  simp only [hn]
  exact hready.report o.events

theorem not_mustGiveUp (h : p.Healthy) : p.mustGiveUp = false := by
  have hproducer : ∀ failure, p.producer ≠ .ended (some failure) := fun failure hp => by
    simpa [hp, Producer.isWell] using h.producer
  have hconsumer : ∀ failure, p.consumer ≠ .failed failure := fun failure hc => by
    simpa [hc, Consumer.isWell] using h.consumer
  unfold mustGiveUp
  split
  · exact absurd ‹_› (hproducer _)
  · exact absurd ‹_› (hproducer _)
  · exact absurd ‹_› (hproducer _)
  · rfl
  · exact absurd ‹_› (hconsumer _)
  · rfl

/-- What a move does keeps everyone well. -/
theorem after (h : p.Healthy) (hm : m.Handled) (e : Effect p m q) : q.Healthy := by
  cases e with
  | stopped => exact h.stop
  | attempted _ hp _ ha => exact h.attempt hp ha
  | exhausted _ hp => exact h.produce (by simp [hp]) rfl nofun
  | put _ hp hput => exact (h.put hp hput).report _
  | closed _ hp => exact h.close hp
  | begun =>
    have hready : { p with consumer := .ready }.Healthy :=
      { h with consumer := rfl, finished := nofun }
    exact hready.report _
  | taken => exact h.take
  | finished _ _ hq hclosed =>
    have hdone : { p with consumer := .finished }.Healthy :=
      { h with consumer := rfl, finished := fun _ => ⟨hclosed, hq⟩ }
    exact hdone.report _
  | wrote d =>
    exact h.settle (Writer.write_counts d _ _ _) fun failure hf => Writer.fault?_isHandled hm hf
  | brokeOff failure calls pairs =>
    exact h.settle (Writer.breakOff_counts failure calls pairs _ _ _) fun _ hf => by
      cases hf
      exact hm
  | gaveUp _ hgive =>
    rw [h.not_mustGiveUp] at hgive
    cases hgive

theorem reach (h : p.Healthy) {moves : List Move} (hm : ∀ m ∈ moves, m.Handled)
    (hq : p.reach moves = some q) : q.Healthy := by
  induction moves generalizing p with
  | nil =>
    cases hq
    exact h
  | cons m rest ih =>
    obtain ⟨hfirst, hrest⟩ := List.forall_mem_cons.mp hm
    obtain ⟨middle, -, e, hreach⟩ := reach_cons hq
    exact ih (h.after hfirst e) hrest hreach

/-- An open buffer takes what the producer has in hand. -/
theorem put_isSome (h : p.Healthy) {s : Scrape} (hp : p.producer = .holding s) :
    (p.put s).isSome = true := by
  have hopen := h.open_of_ne (by simp [hp])
  unfold Pipeline.put Buffer.put
  rw [hopen]
  rfl

/-- A closed buffer gives what it has or says that it is empty. -/
theorem take_isSome (hclosed : p.buffer.closed = true) : p.take.isSome = true := by
  unfold Pipeline.take
  cases hq : p.buffer.queue with
  | nil =>
    have htake : p.buffer.take = (.finished, p.buffer) := by simp [Buffer.take, hq, hclosed]
    rw [htake]
    rfl
  | cons s rest =>
    obtain ⟨b, htake⟩ : ∃ b, p.buffer.take = (.item s, b) := by simp [Buffer.take, hq]
    rw [htake]
    rfl

/-- Some turn is possible until the run is complete. -/
theorem exists_next (h : p.Healthy) (d : Disruption) (hc : p.isComplete = false) :
    ∃ t, t ≠ .stop ∧ (p.next d t).isSome = true := by
  have hproducer := h.producer
  have hconsumer := h.consumer
  unfold isComplete at hc
  cases hp : p.producer with
  | asking =>
    refine ⟨.attempt, nofun, ?_⟩
    unfold next
    rw [hp]
    simp only
    split <;> rfl
  | holding s =>
    refine ⟨.put, nofun, ?_⟩
    unfold next
    rw [hp]
    exact h.put_isSome hp
  | closing failure =>
    refine ⟨.close, nofun, ?_⟩
    unfold next
    rw [hp]
    rfl
  | ended failure =>
    rw [hp] at hproducer hc
    cases failure with
    | some failure => cases hproducer
    | none =>
      have hclosed := h.closed.mpr hp
      cases hcons : p.consumer with
      | waiting =>
        refine ⟨.begin, nofun, ?_⟩
        unfold next
        rw [hcons]
        rfl
      | ready =>
        refine ⟨.take, nofun, ?_⟩
        unfold next
        rw [hcons]
        exact take_isSome hclosed
      | writing s =>
        refine ⟨.write, nofun, ?_⟩
        unfold next
        rw [hcons]
        rfl
      | finished =>
        rw [hcons] at hc
        cases hc
      | failed failure =>
        rw [hcons] at hconsumer
        cases hconsumer
      | abandoned s =>
        rw [hcons] at hconsumer
        cases hconsumer

end Healthy

/-- How many turns are left at most: an attempt, a put, a take and a write for each scrape, and the
turns in which producer and consumer begin and end. -/
def weight (p : Pipeline) : Nat :=
  4 * p.ahead.length + p.producer.weight + 2 * p.buffer.depth + p.consumer.weight

theorem weight_attempt {a : Attempt} {rest : List Attempt} (hp : p.producer = .asking)
    (ha : p.ahead = a :: rest) : (p.attempt a rest).weight < p.weight := by
  obtain ⟨failure | _ | s, events⟩ := a
  all_goals
    simp only [weight, attempt, report, hp, ha, Producer.weight, List.length_cons]
    omega

theorem weight_abandon (h : p.mustGiveUp = true) : p.abandon.weight < p.weight := by
  unfold mustGiveUp at h
  unfold weight abandon
  cases hp : p.producer <;> cases hc : p.consumer <;>
    simp_all [Producer.weight, Consumer.weight, Buffer.depth, Buffer.close]

theorem weight_settle {o : Writer.Outcome} {s : Scrape} (hc : p.consumer = .writing s) :
    (p.settle o).weight < p.weight := by
  unfold weight settle
  cases o.result <;> simp [report, hc, Consumer.weight]

/-- Every move but a request to stop brings the end nearer. -/
theorem Effect.weight_lt (e : Effect p m q) (hm : ∀ d, m ≠ .turn d .stop) :
    q.weight < p.weight := by
  cases e with
  | stopped d => exact absurd rfl (hm d)
  | attempted _ hp _ ha => exact weight_attempt hp ha
  | exhausted _ hp =>
    simp only [weight, hp, Producer.weight]
    omega
  | put _ hp hput =>
    have hdepth := (Buffer.put_frame hput).2.2
    simp only [weight, report, hp, Producer.weight]
    omega
  | closed _ hp =>
    simp only [weight, hp, Producer.weight, Buffer.close, Buffer.depth]
    omega
  | begun _ hc =>
    simp only [weight, report, hc, Consumer.weight]
    omega
  | taken _ hc hq =>
    simp only [weight, hc, hq, Consumer.weight, Buffer.depth, List.length_cons]
    omega
  | finished _ hc =>
    simp only [weight, report, hc, Consumer.weight]
    omega
  | wrote _ hc => exact weight_settle hc
  | brokeOff _ _ _ hc => exact weight_settle hc
  | gaveUp _ h => exact weight_abandon h

theorem next_weight_lt (ht : t ≠ .stop) (h : p.next d t = some q) : q.weight < p.weight :=
  (next_effect h).weight_lt fun _ he => ht (by cases he; rfl)

variable {order : List Turn} {n : Nat}

/-- The schedules in use have every turn but the request to stop. -/
theorem mem_schedule_iff (ho : order = sourceFirst ∨ order = consumerFirst ∨ order = writerSlow)
    (t : Turn) : t ∈ order ↔ t ≠ .stop := by
  rcases ho with rfl | rfl | rfl <;> cases t <;> decide

/-- What a schedule does is a run of moves. -/
theorem exists_reach_turns (d : Disruption) (order : List Turn) (n : Nat) (p : Pipeline) :
    ∃ moves, (d.Handled → ∀ m ∈ moves, m.Handled) ∧ p.reach moves = some (turns d order n p) := by
  induction n generalizing p with
  | zero => exact ⟨[], nofun, rfl⟩
  | succ n ih =>
    unfold turns
    cases hnext : order.findSome? (p.next d) with
    | none => exact ⟨[], nofun, rfl⟩
    | some q =>
      obtain ⟨t, -, ht⟩ := List.exists_of_findSome?_eq_some hnext
      obtain ⟨moves, hmoves, hreach⟩ := ih q
      refine ⟨.turn d t :: moves, fun hd => List.forall_mem_cons.mpr ⟨hd, hmoves hd⟩, ?_⟩
      simp [reach, step, ht, hreach]

theorem Healthy.turns_isComplete (h : p.Healthy) (hd : d.Handled)
    (hall : ∀ t, t ∈ order ↔ t ≠ .stop) (hn : p.weight ≤ n) :
    (turns d order n p).isComplete = true := by
  induction n generalizing p with
  | zero =>
    by_contra hc
    obtain ⟨t, ht, hsome⟩ := h.exists_next d (by simpa [turns] using hc)
    obtain ⟨q, hq⟩ := Option.isSome_iff_exists.mp hsome
    have hlt := next_weight_lt ht hq
    omega
  | succ n ih =>
    unfold turns
    cases hnext : order.findSome? (p.next d) with
    | none =>
      by_contra hc
      obtain ⟨t, ht, hsome⟩ := h.exists_next d (by simpa using hc)
      rw [List.findSome?_eq_none_iff.mp hnext t ((hall t).mpr ht)] at hsome
      cases hsome
    | some q =>
      obtain ⟨t, hmem, ht⟩ := List.exists_of_findSome?_eq_some hnext
      have hlt := next_weight_lt ((hall t).mp hmem) ht
      exact ih (h.after (m := .turn d t) hd (next_effect ht)) (by omega)

/-- The run of a source that never fails over a store that only fails in ways that are handled. -/
theorem run_isComplete {name : String} {ahead : List Attempt} {capacity : Int}
    {buffer : Buffer Scrape} {store : Store} (hb : Buffer.new? capacity = some buffer)
    (ha : ∀ a ∈ ahead, a.failure? = none) (hd : d.Handled)
    (hall : ∀ t, t ∈ order ↔ t ≠ .stop) (started finished : Moment) :
    ((Pipeline.new name ahead buffer .new store).run d order started finished).isComplete =
      true := by
  obtain ⟨-, hnew⟩ := Buffer.new?_eq hb
  have hopen : buffer.closed = false := by rw [hnew]
  have hdepth : buffer.depth = 0 := by rw [hnew]; rfl
  have h : (Pipeline.new name ahead buffer .new store).Healthy := .new ha hopen
  rw [run, finish_eq]
  refine (h.start started).turns_isComplete hd hall ?_
  simp [weight, turnBound, start, report, Pipeline.new, Producer.weight, Consumer.weight, hdepth]

end Pipeline

end MetricArchive
