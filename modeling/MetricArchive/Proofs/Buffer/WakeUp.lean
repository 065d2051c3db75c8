import MetricArchive.Proofs.Buffer.History

/-!
# Woken getters

A put wakes one getter and a close wakes all; a getter that comes between may take the item for
which another was woken. So a getter that sleeps is in danger only if there are more items than
getters on their way. Main statement: that never happens, and so, once everyone who was woken has
had a turn, getters are left in line only before an empty and open buffer.
-/
namespace MetricArchive.WaitingRoom

variable {α : Type}

/-- What is done without a pause. -/
inductive Act (α : Type) where
  | put (a : α)
  | get (id : Nat)
  | close
  deriving DecidableEq, Repr

def Act.move : Act α → Move α
  | .put a => .put a
  | .get id => .get id
  | .close => .close

/-- What happens before the woken getters have their turns. -/
inductive Stage (α : Type) where
  | batch (acts : List (Act α))
  | start (id : Nat)
  | cancel (id : Nat)
  deriving DecidableEq, Repr

def Stage.moves : Stage α → List (Move α)
  | .batch acts => acts.map Act.move
  | .start id => [.get id]
  | .cancel id => [.leave id]

/-- The order in which woken getters have their turns. -/
structure Schedule where
  order : List Waiter → List Waiter
  perm : ∀ line, (order line).Perm line

def Schedule.byLine : Schedule := ⟨id, fun _ => .rfl⟩

def settleBy (c : Schedule) (r : WaitingRoom α) : List (Nat × Option α) × WaitingRoom α :=
  lookAll { r with line := r.line.filter (!·.woken) } (c.order (r.line.filter (·.woken)))

theorem settleBy_byLine (r : WaitingRoom α) : r.settleBy .byLine = r.settle := rfl

/-- A stage and then the turns of the woken; gives what every getter that is done has received. -/
def perform (r : WaitingRoom α) (c : Schedule) (s : Stage α) :
    List (Nat × Option α) × WaitingRoom α :=
  let (answers, r) := r.run s.moves
  let (done, r) := r.settleBy c
  (answers.filterMap Answer.received? ++ done, r)

def performAll (r : WaitingRoom α) (stages : List (Schedule × Stage α)) : WaitingRoom α :=
  stages.foldl (fun r p => (r.perform p.1 p.2).2) r

/-- Who sleeps, sleeps before an open buffer with at most one item for each woken getter. -/
def Watched (r : WaitingRoom α) : Prop :=
  (∃ w ∈ r.line, w.woken = false) →
    r.buffer.closed = false ∧ r.buffer.depth ≤ r.line.countP (·.woken)

def Asleep (r : WaitingRoom α) : Prop := ∀ w ∈ r.line, w.woken = false

variable {r : WaitingRoom α} {line : List Waiter}

theorem wakeFirst_ids (line : List Waiter) : (wakeFirst line).map (·.id) = line.map (·.id) := by
  induction line with
  | nil => rfl
  | cons w rest ih =>
    simp only [wakeFirst]
    split <;> simp [ih]

theorem wakeFirst_asleep {w : Waiter} (hw : w ∈ wakeFirst line) (h : w.woken = false) :
    w ∈ line := by
  induction line with
  | nil => exact hw
  | cons v rest ih =>
    simp only [wakeFirst] at hw
    split at hw
    · rcases List.mem_cons.mp hw with rfl | hw
      · exact List.mem_cons_self
      · exact List.mem_cons_of_mem _ (ih hw)
    · rcases List.mem_cons.mp hw with rfl | hw
      · cases h
      · exact List.mem_cons_of_mem _ hw

theorem wakeFirst_count (h : ∃ w ∈ line, w.woken = false) :
    (wakeFirst line).countP (·.woken) = line.countP (·.woken) + 1 := by
  induction line with
  | nil => simp at h
  | cons v rest ih =>
    simp only [wakeFirst]
    split
    · rename_i hv
      have hrest : ∃ w ∈ rest, w.woken = false := by
        obtain ⟨w, hw, hasleep⟩ := h
        rcases List.mem_cons.mp hw with rfl | hw
        · rw [hv] at hasleep
          cases hasleep
        · exact ⟨w, hw, hasleep⟩
      rw [List.countP_cons_of_pos hv, List.countP_cons_of_pos hv, ih hrest]
    · rename_i hv
      rw [List.countP_cons_of_neg hv, List.countP_cons_of_pos rfl]

theorem Watched.put (h : Watched r) {b : Buffer α} (hclosed : b.closed = r.buffer.closed)
    (hdepth : b.depth ≤ r.buffer.depth + 1) : Watched ⟨b, wakeFirst r.line⟩ := by
  rintro ⟨w, hw, hasleep⟩
  have hold : ∃ w ∈ r.line, w.woken = false := ⟨w, wakeFirst_asleep hw hasleep, hasleep⟩
  obtain ⟨hopen, hle⟩ := h hold
  refine ⟨hclosed.trans hopen, ?_⟩
  simp only [wakeFirst_count hold]
  omega

/-- A getter on its way makes up for one item: it takes one, or there was none. -/
theorem watched_look {b : Buffer α} (id : Nat)
    (h : (∃ w ∈ line, w.woken = false) →
      b.closed = false ∧ b.depth ≤ line.countP (·.woken) + 1) :
    Watched ⟨b.take.2, line ++ b.take.1.waits id⟩ := by
  cases hq : b.queue with
  | nil =>
    cases hc : b.closed with
    | false =>
      have htake : b.take = (.nothingYet, b) := by simp [Buffer.take, hq, hc]
      rw [htake]
      exact fun _ => ⟨hc, by simp [Buffer.depth, hq]⟩
    | true =>
      have htake : b.take = (.finished, b) := by simp [Buffer.take, hq, hc]
      rw [htake]
      rintro ⟨w, hw, hasleep⟩
      obtain ⟨hopen, -⟩ := h ⟨w, by simpa [Delivery.waits] using hw, hasleep⟩
      rw [hc] at hopen
      cases hopen
  | cons oldest rest =>
    have hdepth : b.depth = rest.length + 1 := by simp [Buffer.depth, hq]
    simp only [Buffer.take, hq, Delivery.waits, List.append_nil]
    intro hasleep
    obtain ⟨hopen, hle⟩ := h hasleep
    refine ⟨hopen, ?_⟩
    simp only [Buffer.depth]
    omega

theorem Watched.resume (h : Watched r) {w : Waiter} (hw : w ∈ r.line) (hwoken : w.woken = true) :
    Watched ⟨r.buffer.take.2, r.line.erase w ++ r.buffer.take.1.waits w.id⟩ := by
  refine watched_look w.id fun hasleep => ?_
  obtain ⟨v, hv, hvs⟩ := hasleep
  obtain ⟨hopen, hle⟩ := h ⟨v, List.mem_of_mem_erase hv, hvs⟩
  have hcount := (List.perm_cons_erase hw).countP_eq (·.woken)
  rw [List.countP_cons_of_pos hwoken] at hcount
  exact ⟨hopen, hcount ▸ hle⟩

/-- Only to cancel a getter that was woken can leave another one asleep. -/
theorem Watched.step (h : Watched r) {m : Move α} (hm : ∀ id, m = .leave id → Asleep r) :
    Watched (r.step m).2 := by
  cases m with
  | put a =>
    simp only [WaitingRoom.step, WaitingRoom.put]
    cases hput : r.buffer.put a with
    | none => exact h
    | some p =>
      obtain ⟨hclosed, -, hdepth⟩ := Buffer.put_frame hput
      exact h.put hclosed hdepth
  | get id =>
    rw [WaitingRoom.step, look_eq]
    exact watched_look id fun hasleep => ⟨(h hasleep).1, Nat.le_succ_of_le (h hasleep).2⟩
  | resume id =>
    by_cases hw : ⟨id, true⟩ ∈ r.line
    · rw [step_resume hw rfl]
      exact h.resume hw rfl
    · rw [WaitingRoom.step, WaitingRoom.resume, if_neg hw]
      exact h
  | leave id =>
    have hnone : r.line.countP (·.woken) = 0 :=
      List.countP_eq_zero.mpr fun w hw => by simp [hm id rfl w hw]
    simp only [WaitingRoom.step, WaitingRoom.leave]
    split
    · rintro ⟨w, hw, hasleep⟩
      obtain ⟨hopen, hle⟩ := h ⟨w, (List.mem_filter.mp hw).1, hasleep⟩
      exact ⟨hopen, Nat.le_trans (hnone ▸ hle) (Nat.zero_le _)⟩
    · exact h
  | close =>
    rintro ⟨w, hw, hasleep⟩
    obtain ⟨v, -, rfl⟩ := List.mem_map.mp hw
    cases hasleep

theorem Watched.run (h : Watched r) {moves : List (Move α)} (hm : ∀ id, .leave id ∉ moves) :
    Watched (r.run moves).2 := by
  induction moves generalizing r with
  | nil => exact h
  | cons m rest ih =>
    refine ih (h.step fun id he => ?_) fun id hmem => hm id (List.mem_cons_of_mem _ hmem)
    exact absurd (he ▸ List.mem_cons_self) (hm id)

theorem Watched.stage (h : Watched r) (hr : Asleep r) (s : Stage α) :
    Watched (r.run s.moves).2 := by
  cases s with
  | batch acts =>
    refine h.run fun id hmem => ?_
    obtain ⟨act, -, hact⟩ := List.mem_map.mp hmem
    cases act <;> cases hact
  | start id => exact h.run fun _ hmem => nomatch List.mem_singleton.mp hmem
  | cancel id => exact h.step (m := .leave id) fun _ _ => hr

theorem settleBy_eq_run (r : WaitingRoom α) (c : Schedule) :
    (r.settleBy c).2 =
      (r.run ((c.order (r.line.filter (·.woken))).map (.resume ·.id))).2 := by
  rw [settleBy, run_resume _ (c.perm _)]

theorem settleBy_closed (r : WaitingRoom α) (c : Schedule) :
    (r.settleBy c).2.buffer.closed = r.buffer.closed := by
  refine Bool.eq_iff_iff.mpr ?_
  rw [settleBy_eq_run, run_closed_iff]
  simp

theorem perform_closed_iff {c : Schedule} {s : Stage α} :
    (r.perform c s).2.buffer.closed = true ↔ r.buffer.closed = true ∨ .close ∈ s.moves := by
  have hsettle : (r.perform c s).2.buffer.closed = (r.run s.moves).2.buffer.closed :=
    settleBy_closed _ c
  rw [hsettle, run_closed_iff]

theorem Watched.settleBy (h : Watched r) (c : Schedule) : Watched (r.settleBy c).2 := by
  rw [settleBy_eq_run]
  exact h.run fun id hmem => by simp at hmem

theorem lookAll_asleep (hr : Asleep r) (order : List Waiter) : Asleep (r.lookAll order).2 := by
  induction order generalizing r with
  | nil => exact hr
  | cons w rest ih =>
    rw [lookAll_cons, look_eq]
    refine ih fun v hv => ?_
    rcases List.mem_append.mp hv with hv | hv
    · exact hr v hv
    · exact waits_asleep _ _ v hv

theorem settleBy_asleep (r : WaitingRoom α) (c : Schedule) : Asleep (r.settleBy c).2 :=
  lookAll_asleep (fun w hw => by simpa using (List.mem_filter.mp hw).2) _

theorem Watched.perform (h : Watched r) (hr : Asleep r) (c : Schedule) (s : Stage α) :
    Watched (r.perform c s).2 ∧ Asleep (r.perform c s).2 :=
  ⟨(h.stage hr s).settleBy c, settleBy_asleep _ c⟩

theorem Watched.performAll (h : Watched r) (hr : Asleep r) (stages : List (Schedule × Stage α)) :
    Watched (r.performAll stages) ∧ Asleep (r.performAll stages) := by
  induction stages generalizing r with
  | nil => exact ⟨h, hr⟩
  | cons p rest ih =>
    obtain ⟨h', hr'⟩ := h.perform hr p.1 p.2
    exact ih h' hr'

theorem Watched.idle (h : Watched r) (hr : Asleep r) {w : Waiter} (hw : w ∈ r.line) :
    r.buffer.queue = [] ∧ r.buffer.closed = false := by
  obtain ⟨hopen, hle⟩ := h ⟨w, hw, hr w hw⟩
  have hnone : r.line.countP (·.woken) = 0 :=
    List.countP_eq_zero.mpr fun v hv => by simp [hr v hv]
  rw [hnone] at hle
  exact ⟨List.length_eq_zero_iff.mp (Nat.le_zero.mp hle), hopen⟩

def Move.arrival : Move α → List Nat
  | .get id => [id]
  | _ => []

theorem look_conserves (d : Delivery α) (id : Nat) :
    [id].Perm ((Answer.delivery id d).received?.toList.map (·.1) ++ (d.waits id).map (·.id)) := by
  cases d <;> exact .rfl

theorem step_conserves (r : WaitingRoom α) {m : Move α} (hm : ∀ id, m ≠ .leave id) :
    (r.line.map (·.id) ++ m.arrival).Perm
      ((r.step m).1.received?.toList.map (·.1) ++ (r.step m).2.line.map (·.id)) := by
  cases m with
  | put a =>
    simp only [WaitingRoom.step, WaitingRoom.put, Move.arrival, List.append_nil]
    cases r.buffer.put a with
    | none => exact .rfl
    | some p => exact (wakeFirst_ids r.line).symm ▸ .rfl
  | get id =>
    rw [WaitingRoom.step, look_eq, List.map_append]
    calc r.line.map (·.id) ++ [id]
      _ |>.Perm (r.line.map (·.id) ++ (_ ++ _)) := (look_conserves r.buffer.take.1 id).append_left _
      _ |>.Perm _ := by
        rw [← List.append_assoc, ← List.append_assoc]
        exact List.perm_append_comm.append_right _
  | resume id =>
    simp only [Move.arrival, List.append_nil]
    by_cases hw : ⟨id, true⟩ ∈ r.line
    · rw [step_resume hw rfl, List.map_append]
      have hline := (List.perm_cons_erase hw).map (·.id)
      refine hline.trans ?_
      have hlook := (look_conserves r.buffer.take.1 id).append_right
        ((r.line.erase ⟨id, true⟩).map (·.id))
      refine hlook.trans ?_
      rw [List.append_assoc]
      exact List.perm_append_comm.append_left _
    · rw [WaitingRoom.step, WaitingRoom.resume, if_neg hw]
      exact .rfl
  | leave id => exact absurd rfl (hm id)
  | close =>
    simp only [WaitingRoom.step, WaitingRoom.close, wakeAll, Move.arrival, List.append_nil,
      List.map_map]
    exact .rfl

theorem run_conserves (r : WaitingRoom α) {moves : List (Move α)} (hm : ∀ id, .leave id ∉ moves) :
    (r.line.map (·.id) ++ moves.flatMap Move.arrival).Perm
      (((r.run moves).1.filterMap Answer.received?).map (·.1) ++
        (r.run moves).2.line.map (·.id)) := by
  induction moves generalizing r with
  | nil => simp [WaitingRoom.run]
  | cons m rest ih =>
    have hfirst := step_conserves r (m := m) fun id he => hm id (he ▸ List.mem_cons_self)
    have hrest := ih (r.step m).2 fun id hmem => hm id (List.mem_cons_of_mem _ hmem)
    have hreceived : (r.run (m :: rest)).1.filterMap Answer.received? =
        (r.step m).1.received?.toList ++
          ((r.step m).2.run rest).1.filterMap Answer.received? := by
      rw [run_cons, List.filterMap_cons]
      cases (r.step m).1.received? <;> rfl
    rw [hreceived, List.map_append, List.append_assoc, List.flatMap_cons, ← List.append_assoc]
    refine (hfirst.append_right _).trans ?_
    rw [List.append_assoc]
    exact hrest.append_left _

theorem settleBy_conserves (r : WaitingRoom α) (c : Schedule) :
    (r.line.map (·.id)).Perm
      ((r.settleBy c).1.map (·.1) ++ (r.settleBy c).2.line.map (·.id)) := by
  have hstay : ∀ id, .leave id ∉ (c.order (r.line.filter (·.woken))).map fun w =>
      (.resume w.id : Move α) := by simp
  have hrun := run_conserves r hstay
  have hnobody : ((c.order (r.line.filter (·.woken))).map fun w =>
      (.resume w.id : Move α)).flatMap Move.arrival = [] := by
    rw [List.flatMap_map]
    exact List.flatMap_eq_nil_iff.mpr fun _ _ => rfl
  rw [settleBy, run_resume _ (c.perm _)]
  simpa only [hnobody, List.append_nil] using hrun

/-- The getters of which a stage has to give an account, when some are in line. -/
def Stage.concerned (s : Stage α) (ids : List Nat) : List Nat :=
  match s with
  | .cancel id => ids.filter (· != id)
  | s => ids ++ s.moves.flatMap Move.arrival

theorem perform_conserves (r : WaitingRoom α) (c : Schedule) (s : Stage α) :
    (s.concerned (r.line.map (·.id))).Perm
      ((r.perform c s).1.map (·.1) ++ (r.perform c s).2.line.map (·.id)) := by
  have hsettle := settleBy_conserves (r.run s.moves).2 c
  suffices hmoves : (s.concerned (r.line.map (·.id))).Perm
      (((r.run s.moves).1.filterMap Answer.received?).map (·.1) ++
        (r.run s.moves).2.line.map (·.id)) by
    simp only [perform, List.map_append, List.append_assoc]
    exact hmoves.trans (hsettle.append_left _)
  cases s with
  | batch acts =>
    refine run_conserves r fun id hmem => ?_
    obtain ⟨act, -, hact⟩ := List.mem_map.mp hmem
    cases act <;> cases hact
  | start id => exact run_conserves r fun _ hmem => nomatch List.mem_singleton.mp hmem
  | cancel id =>
    simp only [Stage.concerned, Stage.moves, WaitingRoom.run, WaitingRoom.step, leave]
    split
    · rw [List.filter_map]
      exact .rfl
    · rename_i hnone
      rw [List.filter_eq_self.mpr]
      · exact .rfl
      · intro i hi
        obtain ⟨w, hw, rfl⟩ := List.mem_map.mp hi
        simp only [Bool.not_eq_true, List.any_eq_false, beq_iff_eq] at hnone
        simpa using hnone w hw

/-- Before a closed buffer nobody is left in line, so all who were have received something. -/
theorem Watched.seen_off (h : Watched r) (hr : Asleep r) {c : Schedule} {s : Stage α}
    (hclose : .close ∈ s.moves) {w : Waiter} (hw : w ∈ r.line) :
    ∃ received, (w.id, received) ∈ (r.perform c s).1 := by
  have hclosed : (r.perform c s).2.buffer.closed = true := perform_closed_iff.mpr (.inr hclose)
  have hnobody : (r.perform c s).2.line = [] := by
    refine List.eq_nil_iff_forall_not_mem.mpr fun v hv => ?_
    obtain ⟨h', hr'⟩ := h.perform hr c s
    rw [(h'.idle hr' hv).2] at hclosed
    cases hclosed
  have hconcerned : w.id ∈ s.concerned (r.line.map (·.id)) := by
    cases s with
    | cancel id => simp [Stage.moves] at hclose
    | batch acts => exact List.mem_append_left _ (List.mem_map_of_mem hw)
    | start id => exact List.mem_append_left _ (List.mem_map_of_mem hw)
  have hdone := (perform_conserves r c s).subset hconcerned
  rw [hnobody, List.map_nil, List.append_nil] at hdone
  obtain ⟨⟨id, received⟩, hmem, rfl⟩ := List.mem_map.mp hdone
  exact ⟨received, hmem⟩

/-- Once everyone who was woken has had a turn, getters are in line only before an empty and open
buffer. Whoever was in line, or came, has received something or is in line, unless cancelled. The
buffer is closed by whoever calls for that and by nothing else, and a stage in which someone does
sees all off who were in line. -/
theorem no_wakeup_lost (b : Buffer α) (stages : List (Schedule × Stage α)) :
    let r := performAll ⟨b, []⟩ stages
    (∀ w ∈ r.line, w.woken = false ∧ r.buffer.queue = [] ∧ r.buffer.closed = false) ∧
      ∀ c s, (s.concerned (r.line.map (·.id))).Perm
          ((r.perform c s).1.map (·.1) ++ (r.perform c s).2.line.map (·.id)) ∧
        ((r.perform c s).2.buffer.closed = true ↔ r.buffer.closed = true ∨ .close ∈ s.moves) ∧
        (.close ∈ s.moves → ∀ w ∈ r.line, ∃ received, (w.id, received) ∈ (r.perform c s).1) := by
  have hwatched : Watched ⟨b, []⟩ := fun ⟨w, hw, _⟩ => nomatch hw
  have hasleep : Asleep ⟨b, []⟩ := nofun
  obtain ⟨h, hr⟩ := hwatched.performAll hasleep stages
  refine ⟨fun w hw => ⟨hr w hw, h.idle hr hw⟩, fun c s => ?_⟩
  exact ⟨perform_conserves _ c s, perform_closed_iff, fun hclose w hw => h.seen_off hr hclose hw⟩

-- a getter that is cancelled after it was woken leaves the next one asleep before an item
example : (run ⟨⟨1, [], false, ⟨0, 0, 0, 0⟩⟩, []⟩
    [.get 0, .get 1, .put 'a', .leave 0]).2.line = [⟨1, false⟩] := by decide

end MetricArchive.WaitingRoom
