import MetricArchive.Proofs.Pipeline.Turns
import MetricArchive.Source.Target

/-!
# The balance of a pipeline

A ledger is kept beside a run: which scrapes were collected, which were dropped, written or lost,
and which were cut off when a failure ended the run. Whatever happens, each scrape that was
collected stands in the ledger or is with the producer, in the buffer or with the consumer, and what
was written and is still to be written is in the order of collection. Main statement: so the
counters of source, buffer and writer add up at any time of a run in which nobody fails, for scrapes
and, at its end, for samples.
-/
namespace MetricArchive

def Producer.scrapes : Producer → List Scrape
  | .holding s => [s]
  | _ => []

def Consumer.scrapes : Consumer → List Scrape
  | .writing s => [s]
  | _ => []

/-- What the attempts of a source come to, from what it reads or fetches; a source without a limit
is given a number of ticks. -/
def Source.attempts (clock : Nat → Moment) (stream : ByteStream) (fetch : Nat → FetchResult)
    (patience : Nat) : Source → List Attempt
  | .oneShot o => (o.scrape false (clock 0) stream).1
  | .periodic p => p.attemptsFrom clock fetch (p.tickCount patience) 0

def samples : List Scrape → Nat
  | [] => 0
  | s :: rest => s.sampleCount + samples rest

theorem samples_append (l k : List Scrape) : samples (l ++ k) = samples l + samples k := by
  induction l with
  | nil => exact (Nat.zero_add _).symm
  | cons s rest ih => rw [List.cons_append, samples, samples, ih, Nat.add_assoc]

theorem samples_perm {l k : List Scrape} (h : l.Perm k) : samples l = samples k := by
  induction h with
  | nil => rfl
  | cons s _ ih => rw [samples, samples, ih]
  | swap s t l =>
    simp only [samples]
    omega
  | trans _ _ ih₁ ih₂ => exact ih₁.trans ih₂

/-- What became of the scrapes of a run, each list in the order in which it happened. -/
structure Ledger where
  collected : List Scrape
  dropped : List Scrape
  written : List Scrape
  lost : List Scrape
  /-- In hand when the run was given up, or written when a failure passed through. -/
  cut : List Scrape

namespace Ledger

def empty : Ledger := ⟨[], [], [], [], []⟩

/-- Enters what became of a scrape by a write that met a failure or none. -/
def enter (l : Ledger) (s : Scrape) : Option Failure → Ledger
  | none => { l with written := l.written ++ [s] }
  | some failure =>
    if failure.isHandled then { l with lost := l.lost ++ [s] } else { l with cut := l.cut ++ [s] }

def counts (l : Ledger) : WriterMetrics :=
  ⟨l.written.length, l.lost.length, samples l.written, samples l.lost⟩

/-- The ledger tells of every scrape, and the counters agree with it. -/
structure Balances (l : Ledger) (p : Pipeline) : Prop where
  conserved : l.collected.Perm (l.dropped ++ l.written ++ l.lost ++ l.cut ++ p.consumer.scrapes ++
    p.buffer.queue ++ p.producer.scrapes)
  inOrder : (l.written ++ p.consumer.scrapes ++ p.buffer.queue ++ p.producer.scrapes).Sublist
    l.collected
  succeeded : p.source.succeeded = l.collected.length
  dropped : p.buffer.metrics.dropped = l.dropped.length
  writer : p.writer.metrics = l.counts

variable {l : Ledger} {p q : Pipeline}

theorem enter_frame (l : Ledger) (s : Scrape) (fault : Option Failure) :
    (l.enter s fault).collected = l.collected ∧ (l.enter s fault).dropped = l.dropped := by
  unfold enter
  split
  · exact ⟨rfl, rfl⟩
  · split <;> exact ⟨rfl, rfl⟩

theorem enter_written (l : Ledger) (s : Scrape) (fault : Option Failure) :
    (l.enter s fault).written.Sublist (l.written ++ [s]) := by
  unfold enter
  split
  · exact .refl _
  · split <;> exact List.sublist_append_left _ _

/-- A scrape is entered in one place. -/
theorem enter_perm (l : Ledger) (s : Scrape) (fault : Option Failure) :
    ((l.enter s fault).written ++ (l.enter s fault).lost ++ (l.enter s fault).cut).Perm
      (l.written ++ l.lost ++ l.cut ++ [s]) := by
  rw [List.perm_iff_count]
  intro a
  unfold enter
  split
  · simp only [List.count_append]
    omega
  · split <;> simp only [List.count_append] <;> omega

theorem enter_counts {w : Writer} {s : Scrape} {fault : Option Failure} {o : Writer.Outcome}
    (hw : w.metrics = l.counts) (ho : Writer.Counts fault w s o) :
    o.writer.metrics = (l.enter s fault).counts := by
  have hmetrics := ho.metrics
  rw [hw] at hmetrics
  unfold enter
  cases fault with
  | none => simp [hmetrics, counts, samples, samples_append]
  | some failure =>
    cases hf : failure.isHandled with
    | true => simp [hmetrics, hf, counts, samples, samples_append]
    | false => simp [hmetrics, hf, counts]

theorem enter_cut (l : Ledger) (s : Scrape) {fault : Option Failure}
    (hf : ∀ failure, fault = some failure → failure.isHandled = true) :
    (l.enter s fault).cut = l.cut := by
  cases fault with
  | none => rfl
  | some failure => simp [enter, hf failure rfl]

namespace Balances

theorem new (name : String) (ahead : List Attempt) {buffer : Buffer Scrape} (store : Store)
    {capacity : Int} (hb : Buffer.new? capacity = some buffer) :
    empty.Balances (.new name ahead buffer .new store) := by
  obtain ⟨-, rfl⟩ := Buffer.new?_eq hb
  exact ⟨.nil, .slnil, rfl, rfl, rfl⟩

theorem report (h : l.Balances p) (events : List Event) : l.Balances (p.report events) :=
  { h with }

theorem start (h : l.Balances p) (now : Moment) : l.Balances (p.start now) := { h with }

theorem finish (h : l.Balances p) (now : Moment) : l.Balances (p.finish now) := by
  rw [Pipeline.finish_eq]
  exact { h with }

theorem stop (h : l.Balances p) : l.Balances p.stop := by
  rw [Pipeline.stop_eq]
  exact { h with }

/-- The producer goes on with nothing new in hand. -/
theorem produce (h : l.Balances p) {next : Producer} (hn : next.scrapes = p.producer.scrapes) :
    l.Balances { p with producer := next } :=
  { h with
    conserved := by simpa only [hn] using h.conserved
    inOrder := by simpa only [hn] using h.inOrder }

theorem consume (h : l.Balances p) {next : Consumer} (hn : next.scrapes = p.consumer.scrapes) :
    l.Balances { p with consumer := next } :=
  { h with
    conserved := by simpa only [hn] using h.conserved
    inOrder := by simpa only [hn] using h.inOrder }

/-- An attempt that comes to no scrape. -/
theorem pass (h : l.Balances p) (rest : List Attempt) (source : SourceMetrics)
    (hs : source.succeeded = p.source.succeeded) : l.Balances { p with ahead := rest, source } :=
  { h with succeeded := hs.trans h.succeeded }

theorem collect (h : l.Balances p) (hp : p.producer.scrapes = []) (rest : List Attempt)
    (source : SourceMetrics) (hs : source.succeeded = p.source.succeeded + 1) (s : Scrape) :
    { l with collected := l.collected ++ [s] }.Balances
      { p with ahead := rest, source, producer := .holding s } := by
  have hconserved := h.conserved
  have horder := h.inOrder
  rw [hp, List.append_nil] at hconserved horder
  refine { h with
    conserved := hconserved.append_right [s]
    inOrder := horder.append (.refl [s])
    succeeded := ?_ }
  rw [hs, h.succeeded, List.length_append, List.length_singleton]

theorem attempt (h : l.Balances p) (hp : p.producer = .asking) (a : Attempt)
    (rest : List Attempt) :
    { l with collected := l.collected ++ a.scrape?.toList }.Balances (p.attempt a rest) := by
  have hnone : p.producer.scrapes = [] := by rw [hp]; rfl
  obtain ⟨failure | _ | s, events⟩ := a
  · simp only [Attempt.scrape?, Option.toList_none, List.append_nil]
    have hpassed := (h.pass rest (p.source.count ⟨.error failure, events⟩) rfl).report events
    exact hpassed.produce hnone.symm
  · simp only [Attempt.scrape?, Option.toList_none, List.append_nil]
    exact (h.pass rest (p.source.count ⟨.ok none, events⟩) rfl).report events
  · exact (h.collect hnone rest (p.source.count ⟨.ok (some s), events⟩) rfl s).report events

theorem put (h : l.Balances p) {s : Scrape} {lost : Option Scrape} {b : Buffer Scrape}
    (hp : p.producer = .holding s) (hput : p.buffer.put s = some (lost, b)) :
    { l with dropped := l.dropped ++ lost.toList }.Balances
      { p with buffer := b, producer := .asking } := by
  have hconserved := h.conserved
  have horder := h.inOrder
  simp only [hp, Producer.scrapes] at hconserved horder
  obtain ⟨-, ⟨rfl, -, rfl⟩ | ⟨oldest, rest, hq, -, rfl, rfl⟩⟩ := Buffer.put_cases hput
  · refine { h with conserved := ?_, inOrder := ?_, dropped := ?_ }
    · simpa [Producer.scrapes, Buffer.push] using hconserved
    · simpa [Producer.scrapes, Buffer.push] using horder
    · simpa [Buffer.push] using h.dropped
  -- the oldest scrape leaves the queue for the ledger
  · rw [hq] at hconserved horder
    refine { h with conserved := ?_, inOrder := ?_, dropped := ?_ }
    · rw [List.perm_iff_count] at hconserved ⊢
      intro a
      have hcount := hconserved a
      simp only [Producer.scrapes, Buffer.push, Option.toList_some,
        ← List.singleton_append (l := rest), List.count_append, List.count_nil] at hcount ⊢
      omega
    · refine .trans ?_ horder
      simp [Producer.scrapes, Buffer.push]
    · simp [Buffer.push, h.dropped]

theorem close (h : l.Balances p) {failure : Option SourceFailure}
    (hp : p.producer = .closing failure) :
    l.Balances { p with producer := .ended failure, buffer := p.buffer.close } := by
  have hended : l.Balances { p with producer := .ended failure } :=
    h.produce (by rw [hp]; rfl)
  exact { hended with }

theorem take (h : l.Balances p) {s : Scrape} {rest : List Scrape} (hc : p.consumer = .ready)
    (hq : p.buffer.queue = s :: rest) :
    l.Balances { p with
      buffer := { p.buffer with
        queue := rest
        metrics := { p.buffer.metrics with popped := p.buffer.metrics.popped + 1 } }
      consumer := .writing s } := by
  have hconserved := h.conserved
  have horder := h.inOrder
  simp only [hc, hq, Consumer.scrapes] at hconserved horder
  refine { h with conserved := ?_, inOrder := ?_ }
  · simpa [Consumer.scrapes] using hconserved
  · simpa [Consumer.scrapes] using horder

/-- Scrapes in hand are entered or stay where they are. -/
theorem settleUp (h : l.Balances p) {l' : Ledger} (hcollected : l'.collected = l.collected)
    (hdropped : l'.dropped = l.dropped) (hsource : q.source = p.source)
    (hqueue : q.buffer.queue = p.buffer.queue) (hbuffer : q.buffer.metrics = p.buffer.metrics)
    (hmoved : (l'.written ++ l'.lost ++ l'.cut ++ q.consumer.scrapes ++ q.producer.scrapes).Perm
      (l.written ++ l.lost ++ l.cut ++ p.consumer.scrapes ++ p.producer.scrapes))
    (hconsumer : (l'.written ++ q.consumer.scrapes).Sublist (l.written ++ p.consumer.scrapes))
    (hproducer : q.producer.scrapes.Sublist p.producer.scrapes)
    (hwriter : q.writer.metrics = l'.counts) : l'.Balances q where
  conserved := by
    have hconserved := h.conserved
    rw [hcollected, hdropped, hqueue]
    rw [List.perm_iff_count] at hconserved hmoved ⊢
    intro a
    have hcount := hconserved a
    have hmove := hmoved a
    simp only [List.count_append] at hcount hmove ⊢
    omega
  inOrder := by
    rw [hcollected, hqueue]
    exact ((hconsumer.append (.refl _)).append hproducer).trans h.inOrder
  succeeded := by rw [hcollected, hsource, h.succeeded]
  dropped := by rw [hdropped, hbuffer, h.dropped]
  writer := hwriter

theorem settle (h : l.Balances p) {s : Scrape} (hc : p.consumer = .writing s)
    {fault : Option Failure} {o : Writer.Outcome} (ho : Writer.Counts fault p.writer s o) :
    (l.enter s fault).Balances (p.settle o) := by
  have hdone : (p.settle o).consumer.scrapes = [] := by
    unfold Pipeline.settle
    cases o.result <;> rfl
  have hhand : p.consumer.scrapes = [s] := by rw [hc]; rfl
  obtain ⟨hcollected, hdropped⟩ := l.enter_frame s fault
  refine h.settleUp hcollected hdropped rfl rfl rfl ?_ ?_ (.refl _) (enter_counts h.writer ho)
  · rw [hdone, hhand, List.append_nil]
    exact (l.enter_perm s fault).append_right _
  · rw [hdone, hhand, List.append_nil]
    exact l.enter_written s fault

theorem abandon (h : l.Balances p) :
    { l with cut := l.cut ++ p.consumer.scrapes ++ p.producer.scrapes }.Balances p.abandon := by
  have hdone : p.abandon.consumer.scrapes = [] := by
    unfold Pipeline.abandon
    cases p.consumer <;> rfl
  have hended : p.abandon.producer.scrapes = [] := rfl
  refine h.settleUp rfl rfl rfl rfl rfl ?_ ?_ (List.nil_sublist _) h.writer
  · rw [hdone, hended]
    simp [List.append_assoc]
  · rw [hdone, List.append_nil]
    exact List.sublist_append_left _ _

/-- The counters add up. -/
theorem counters (h : l.Balances p) :
    p.source.succeeded = p.buffer.metrics.dropped + p.buffer.depth +
      p.writer.metrics.scrapesWritten + p.writer.metrics.scrapesFailed + l.cut.length +
      p.producer.scrapes.length + p.consumer.scrapes.length := by
  have hlength := h.conserved.length_eq
  simp only [List.length_append] at hlength
  rw [h.succeeded, h.dropped, h.writer]
  simp only [counts, Buffer.depth]
  omega

/-- Once nothing is on its way the samples add up as well. -/
theorem samples_collected (h : l.Balances p) (hp : p.producer.scrapes = [])
    (hc : p.consumer.scrapes = []) (hq : p.buffer.queue = []) :
    samples l.collected = samples l.dropped + p.writer.metrics.samplesWritten +
      p.writer.metrics.samplesLost + samples l.cut := by
  have hconserved := h.conserved
  simp only [hp, hc, hq, List.append_nil] at hconserved
  rw [samples_perm hconserved, h.writer]
  simp only [samples_append, counts]

theorem written_sublist (h : l.Balances p) : l.written.Sublist l.collected := by
  have horder := h.inOrder
  simp only [List.append_assoc] at horder
  exact (List.sublist_append_left _ _).trans horder

end Balances

end Ledger

namespace Pipeline

def record (p : Pipeline) (l : Ledger) : Move → Ledger
  | .turn d t =>
    match t, p.producer, p.consumer with
    | .attempt, .asking, _ =>
      match p.stopping, p.ahead with
      | false, a :: _ => { l with collected := l.collected ++ a.scrape?.toList }
      | _, _ => l
    | .put, .holding s, _ =>
      { l with dropped := l.dropped ++ ((p.buffer.put s).bind (·.1)).toList }
    | .write, _, .writing s => l.enter s (Writer.fault? d p.store p.writer s)
    | .giveUp, producer, consumer => { l with cut := l.cut ++ consumer.scrapes ++ producer.scrapes }
    | _, _, _ => l
  | .breakOff failure _ _ =>
    match p.consumer with
    | .writing s => l.enter s (some failure)
    | _ => l

/-- The ledger of a run, as far as its moves are possible. -/
def ledger (p : Pipeline) (l : Ledger) : List Move → Ledger
  | [] => l
  | m :: rest => (p.step m).elim l fun q => q.ledger (p.record l m) rest

variable {l : Ledger} {p q : Pipeline} {m : Move}

theorem record_exhausted {d : Disruption} (hp : p.producer = .asking)
    (hends : p.stopping = true ∨ p.ahead = []) : p.record l (.turn d .attempt) = l := by
  simp only [record, hp]
  split
  · rename_i hs ha
    simp [hs, ha] at hends
  · rfl

theorem balances_after (h : l.Balances p) (e : Effect p m q) : (p.record l m).Balances q := by
  cases e with
  | stopped => exact h.stop
  | attempted _ hp hs ha =>
    simp only [record, hp, hs, ha]
    exact h.attempt hp _ _
  | exhausted _ hp hends =>
    rw [record_exhausted hp hends]
    exact h.produce (by rw [hp]; rfl)
  | put _ hp hput =>
    simp only [record, hp, hput, Option.bind_some]
    exact (h.put hp hput).report _
  | closed _ hp => exact h.close hp
  | begun _ hc => exact (h.consume (by rw [hc]; rfl)).report _
  | taken _ hc hq => exact h.take hc hq
  | finished _ hc => exact (h.consume (by rw [hc]; rfl)).report _
  | wrote d hc =>
    simp only [record, hc]
    exact h.settle hc (Writer.write_counts d _ _ _)
  | brokeOff failure calls pairs hc =>
    simp only [record, hc]
    exact h.settle hc (Writer.breakOff_counts failure calls pairs _ _ _)
  | gaveUp => exact h.abandon

theorem balances_reach (h : l.Balances p) {moves : List Move} (hq : p.reach moves = some q) :
    (p.ledger l moves).Balances q := by
  induction moves generalizing p l with
  | nil =>
    cases hq
    exact h
  | cons m rest ih =>
    obtain ⟨middle, hstep, e, hreach⟩ := reach_cons hq
    rw [ledger, hstep]
    exact ih (balances_after h e) hreach

namespace Healthy

/-- Where nobody fails nothing is cut off. -/
theorem record_cut (h : p.Healthy) (hm : m.Handled) (e : Effect p m q) :
    (p.record l m).cut = l.cut := by
  cases e with
  | stopped => rfl
  | attempted _ hp hs ha => simp only [record, hp, hs, ha]
  | exhausted _ hp =>
    simp only [record, hp]
    split <;> rfl
  | put _ hp => simp only [record, hp]
  | closed => rfl
  | begun => rfl
  | taken => rfl
  | finished => rfl
  | wrote d hc =>
    simp only [record, hc]
    exact l.enter_cut _ fun failure hf => Writer.fault?_isHandled hm hf
  | brokeOff failure calls pairs hc =>
    simp only [record, hc]
    exact l.enter_cut _ fun _ hf => by
      cases hf
      exact hm
  | gaveUp _ hgive =>
    rw [h.not_mustGiveUp] at hgive
    cases hgive

theorem ledger_cut (h : p.Healthy) {moves : List Move} (hm : ∀ m ∈ moves, m.Handled)
    (hq : p.reach moves = some q) : (p.ledger l moves).cut = l.cut := by
  induction moves generalizing p l with
  | nil => rfl
  | cons m rest ih =>
    obtain ⟨hfirst, hrest⟩ := List.forall_mem_cons.mp hm
    obtain ⟨middle, hstep, e, hreach⟩ := reach_cons hq
    rw [ledger, hstep]
    exact (ih (h.after hfirst e) hrest hreach).trans (h.record_cut hfirst e)

/-- At the end of a run nothing is on its way. -/
theorem of_isComplete (h : p.Healthy) (hc : p.isComplete = true) :
    p.producer.scrapes = [] ∧ p.consumer.scrapes = [] ∧ p.buffer.queue = [] ∧
      p.buffer.closed = true := by
  unfold isComplete at hc
  split at hc
  · rename_i hp hcons
    obtain ⟨hclosed, hqueue⟩ := h.finished hcons
    exact ⟨by rw [hp]; rfl, by rw [hcons]; rfl, hqueue, hclosed⟩
  · cases hc

/-- What a complete run says of itself adds up. -/
theorem totals (h : p.Healthy) (hl : l.Balances p) (hcut : l.cut = [])
    (hc : p.isComplete = true) (now : Moment) :
    let totals := p.summary now
    totals.attempted = totals.succeeded + totals.failed ∧
      totals.succeeded = totals.dropped + totals.written + totals.writeFailed ∧
      samples l.collected = totals.samplesWritten + totals.samplesLost + samples l.dropped := by
  obtain ⟨hproducer, hconsumer, hqueue, -⟩ := h.of_isComplete hc
  have hattempted := h.attempted
  have hcounters := hl.counters
  have hsamples := hl.samples_collected hproducer hconsumer hqueue
  have hnone : samples [] = 0 := rfl
  simp only [hcut, hproducer, hconsumer, Buffer.depth, hqueue, List.length_nil] at hcounters
  rw [hcut, hnone] at hsamples
  simp only [summary]
  omega

end Healthy

/-- A pipeline whose run begins; it may have been asked to stop before. -/
def launch (name : String) (ahead : List Attempt) (buffer : Buffer Scrape) (store : Store)
    (early : Bool) (now : Moment) : Pipeline :=
  let p := Pipeline.new name ahead buffer .new store
  (if early then p.stop else p).start now

variable {name : String} {ahead : List Attempt} {capacity : Int} {buffer : Buffer Scrape}

theorem launch_healthy (hb : Buffer.new? capacity = some buffer)
    (ha : ∀ a ∈ ahead, a.failure? = none) (store : Store) (early : Bool) (now : Moment) :
    (launch name ahead buffer store early now).Healthy := by
  obtain ⟨-, hnew⟩ := Buffer.new?_eq hb
  have h : (Pipeline.new name ahead buffer .new store).Healthy := .new ha (by rw [hnew])
  unfold launch
  cases early with
  | true => exact h.stop.start now
  | false => exact h.start now

theorem launch_balances (hb : Buffer.new? capacity = some buffer) (store : Store) (early : Bool)
    (now : Moment) : Ledger.empty.Balances (launch name ahead buffer store early now) := by
  have h := Ledger.Balances.new name ahead store hb
  unfold launch
  cases early with
  | true => exact h.stop.start now
  | false => exact h.start now

/-- Every scrape is accounted for at any time, and at the end of a run every sample. -/
theorem run_balance (source : Source) (clock : Nat → Moment) (stream : ByteStream)
    (fetch : Nat → FetchResult) (patience : Nat) (store : Store) (early : Bool)
    (started now : Moment) (hb : Buffer.new? capacity = some buffer)
    (ha : ∀ a ∈ source.attempts clock stream fetch patience, a.failure? = none) :
    let p := launch source.name (source.attempts clock stream fetch patience) buffer store early
      started
    ∀ moves q, (∀ m ∈ moves, m.Handled) → p.reach moves = some q →
      let l := p.ledger .empty moves
      let totals := q.summary now
      totals.succeeded = totals.dropped + q.buffer.depth + totals.written + totals.writeFailed +
          q.producer.scrapes.length + q.consumer.scrapes.length ∧
        (totals.succeeded = l.collected.length ∧ totals.dropped = l.dropped.length ∧
          totals.written = l.written.length) ∧
        (q.isComplete = true →
          q.producer.scrapes = [] ∧ q.consumer.scrapes = [] ∧ q.buffer.depth = 0 ∧
          q.buffer.closed = true ∧
          totals.attempted = totals.succeeded + totals.failed ∧
          samples l.collected = totals.samplesWritten + totals.samplesLost + samples l.dropped ∧
          l.written.Sublist l.collected) := by
  intro p moves q hm hq l totals
  have hstart : p.Healthy := launch_healthy hb ha store early started
  have hend := hstart.reach hm hq
  have hl : l.Balances q := balances_reach (launch_balances hb store early started) hq
  have hcut : l.cut = [] := hstart.ledger_cut hm hq
  have hcounters := hl.counters
  rw [hcut, List.length_nil] at hcounters
  refine ⟨?_, ⟨?_, ?_, ?_⟩, fun hc => ?_⟩
  · simp only [totals, summary]
    omega
  · simp only [totals, summary, hl.succeeded]
  · simp only [totals, summary, hl.dropped]
  · simp only [totals, summary, hl.writer, Ledger.counts]
  · obtain ⟨hproducer, hconsumer, hqueue, hclosed⟩ := hend.of_isComplete hc
    obtain ⟨hattempted, -, hsamples⟩ := hend.totals hl hcut hc now
    refine ⟨hproducer, hconsumer, ?_, hclosed, hattempted, hsamples, hl.written_sublist⟩
    rw [Buffer.depth, hqueue, List.length_nil]

/-! Three payloads and a timeout, with room for one scrape: the write of the first breaks off, the
second is dropped for the third, and the pipeline is asked to stop before the third is written. -/

def hourly : Periodic := ⟨"http://a/", [], .whole 3600, .whole 60, some 9⟩

def hour (k : Nat) : Moment := .utc (k * 3600000000)

def answer (k : Nat) : FetchResult :=
  if k = 1 then .timeout
  else .reply ⟨200, [], ((List.range (k + 1)).flatMap fun _ => "up 1\n".toUTF8.data.toList)⟩

def hurried : Pipeline :=
  launch hourly.url ((Source.periodic hourly).attempts hour ⟨.ok [], false⟩ answer 9)
    ⟨1, [], false, ⟨0, 0, 0, 0⟩⟩ .empty false (.utc 0)

def hurriedMoves : List Move :=
  let turn := Move.turn .none
  [turn .attempt, turn .put, turn .begin, turn .take, turn .attempt, turn .attempt, turn .put,
    turn .attempt, turn .put, .breakOff .operational 0 0, turn .take, turn .stop, turn .write,
    turn .attempt, turn .close, turn .take]

theorem run_balance_hurried :
    (∀ m ∈ hurriedMoves, m.Handled) ∧
    ∃ q, hurried.reach hurriedMoves = some q ∧ q.isComplete = true ∧
      (samples (hurried.ledger .empty hurriedMoves).collected : Int) =
        (q.summary (.utc 0)).samplesWritten + (q.summary (.utc 0)).samplesLost +
          samples (hurried.ledger .empty hurriedMoves).dropped ∧
      samples (hurried.ledger .empty hurriedMoves).dropped = 3 := by
  have hm : ∀ m ∈ hurriedMoves, m.Handled := by
    simp [hurriedMoves, Move.Handled, Disruption.none_handled, Failure.isHandled]
  have hreach : (hurried.reach hurriedMoves).map isComplete = some true := by decide +kernel
  obtain ⟨q, hq, hc⟩ := Option.map_eq_some_iff.mp hreach
  have ha : ∀ a ∈ (Source.periodic hourly).attempts hour ⟨.ok [], false⟩ answer 9,
      a.failure? = none := by decide +kernel
  have hb : Buffer.new? 1 = some (⟨1, [], false, ⟨0, 0, 0, 0⟩⟩ : Buffer Scrape) := rfl
  have h := run_balance (.periodic hourly) hour ⟨.ok [], false⟩ answer 9 .empty false (.utc 0)
    (.utc 0) hb ha hurriedMoves q hm hq
  exact ⟨hm, q, hq, hc, (h.2.2 hc).2.2.2.2.2.1, by decide +kernel⟩

/-- Each schedule in use brings a run to its end, and the totals of the run add up. -/
theorem run_totals {d : Disruption} {order : List Turn} (store : Store) (started finished : Moment)
    (hb : Buffer.new? capacity = some buffer) (ha : ∀ a ∈ ahead, a.failure? = none)
    (hd : d.Handled) (ho : order = sourceFirst ∨ order = consumerFirst ∨ order = writerSlow) :
    let r := (Pipeline.new name ahead buffer .new store).run d order started finished
    let totals := r.summary finished
    r.isComplete = true ∧
      totals.attempted = totals.succeeded + totals.failed ∧
      totals.succeeded = totals.dropped + totals.written + totals.writeFailed := by
  intro r totals
  have hstart : (launch name ahead buffer store false started).Healthy :=
    launch_healthy hb ha store false started
  obtain ⟨moves, hmoves, hreach⟩ := exists_reach_turns d order
    (Pipeline.new name ahead buffer .new store).turnBound
    (launch name ahead buffer store false started)
  have hend := (hstart.reach (hmoves hd) hreach).finish finished
  have hl := (balances_reach (launch_balances hb store false started) hreach).finish finished
  have hc : r.isComplete = true :=
    run_isComplete hb ha hd (mem_schedule_iff ho) started finished
  obtain ⟨hattempted, hsucceeded, -⟩ :=
    hend.totals hl (hstart.ledger_cut (hmoves hd) hreach) hc finished
  exact ⟨hc, hattempted, hsucceeded⟩

end Pipeline

end MetricArchive
