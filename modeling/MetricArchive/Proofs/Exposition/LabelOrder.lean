import Mathlib.Data.Finset.Basic
import MetricArchive.Proofs.Exposition.RenderedLine
import MetricArchive.Proofs.Store.Identity

/-!
# The order of labels

Scraped labels are renamed one after the other, so of two labels that are after the same name the
first one gets it. Which names a sample has does not depend on the order of its labels, but which
value stands under which name does. Main statement: the labels of a line may be written in any order
exactly if no two of them with different values are ever after the same name, and then all these
lines belong to one series.
-/
namespace MetricArchive.Exposition

open Text

def exported : Nat → String → String
  | 0, name => name
  | n + 1, name => exported n ("exported_" ++ name)

/-- The name that comes first, of all that a label may get, among those not taken. -/
def IsFresh (taken : List String) (name fresh : String) : Prop :=
  ∃ n, fresh = exported n name ∧ fresh ∉ taken ∧ ∀ m < n, exported m name ∈ taken

section Fresh

variable {taken : List String} {name fresh : String}

theorem exported_exported (m n : Nat) (name : String) :
    exported m (exported n name) = exported (m + n) name := by
  induction n generalizing name with
  | zero => rfl
  | succ n ih => exact ih _

theorem exported_length (n : Nat) (name : String) :
    (exported n name).length = 9 * n + name.length := by
  induction n generalizing name with
  | zero => simp [exported]
  | succ n ih =>
    have hlead : "exported_".length = 9 := rfl
    rw [exported, ih, String.length_append, hlead]
    omega

theorem exported_injective (name : String) : Function.Injective (exported · name) := by
  intro m n h
  have hlength := congrArg String.length h
  simp only [exported_length] at hlength
  omega

/-- The search ends at a name that is free, or when it was allowed to try no more. -/
theorem freshName_cases (taken : List String) (n : Nat) (name : String) :
    ∃ m ≤ n, freshName taken n name = exported m name ∧ (∀ k < m, exported k name ∈ taken) ∧
      (m < n → exported m name ∉ taken) := by
  induction n generalizing name with
  | zero => exact ⟨0, Nat.le_refl 0, rfl, nofun, nofun⟩
  | succ n ih =>
    by_cases hname : name ∈ taken
    · obtain ⟨m, hm, heq, hbelow, hfree⟩ := ih ("exported_" ++ name)
      have hstep : freshName taken (n + 1) name = freshName taken n ("exported_" ++ name) := by
        simp [freshName, hname]
      refine ⟨m + 1, by omega, hstep.trans heq, ?_, ?_⟩
      · intro k hk
        cases k with
        | zero => exact hname
        | succ k => exact hbelow k (by omega)
      · exact fun h => hfree (by omega)
    · exact ⟨0, by omega, by simp [freshName, hname, exported], nofun, fun _ => hname⟩

/-- Among one name more than there are taken ones, one is free. -/
theorem exists_exported_not_mem (taken : List String) (name : String) :
    ∃ n ≤ taken.length, exported n name ∉ taken := by
  by_contra! hall
  have hsubset : (List.range (taken.length + 1)).map (exported · name) ⊆ taken := by
    intro s hs
    obtain ⟨n, hn, rfl⟩ := List.mem_map.mp hs
    exact hall n (by have := List.mem_range.mp hn; omega)
  have hnodup := (@List.nodup_range (taken.length + 1)).map (exported_injective name)
  have hlength := (List.subperm_of_subset hnodup hsubset).length_le
  rw [List.length_map, List.length_range] at hlength
  omega

theorem freshName_isFresh (taken : List String) (name : String) :
    IsFresh taken name (freshName taken taken.length name) := by
  obtain ⟨m, hm, heq, hbelow, hfree⟩ := freshName_cases taken taken.length name
  refine ⟨m, heq, ?_, hbelow⟩
  rw [heq]
  rcases Nat.lt_or_eq_of_le hm with hlt | rfl
  · exact hfree hlt
  · obtain ⟨n, hn, hnot⟩ := exists_exported_not_mem taken name
    rcases Nat.lt_or_eq_of_le hn with hlt | rfl
    · exact absurd (hbelow n hlt) hnot
    · exact hnot

namespace IsFresh

theorem unique {other : String} (h : IsFresh taken name fresh) (h' : IsFresh taken name other) :
    fresh = other := by
  obtain ⟨m, rfl, hm, hbelow⟩ := h
  obtain ⟨n, rfl, hn, hbelow'⟩ := h'
  rcases Nat.lt_trichotomy m n with hlt | rfl | hlt
  · exact absurd (hbelow' m hlt) hm
  · rfl
  · exact absurd (hbelow n hlt) hn

theorem perm {others : List String} (h : IsFresh taken name fresh) (hp : taken.Perm others) :
    IsFresh others name fresh := by
  obtain ⟨n, heq, hn, hbelow⟩ := h
  exact ⟨n, heq, fun hm => hn (hp.mem_iff.mpr hm), fun m hm => hp.mem_iff.mp (hbelow m hm)⟩

/-- A name that someone else takes is no loss. -/
theorem keep {other : String} (h : IsFresh taken name fresh) (hne : fresh ≠ other) :
    IsFresh (taken ++ [other]) name fresh := by
  obtain ⟨n, heq, hn, hbelow⟩ := h
  refine ⟨n, heq, ?_, fun m hm => List.mem_append_left _ (hbelow m hm)⟩
  simpa [hn] using hne

/-- Whoever finds a name just taken goes on from there. -/
theorem go_on {next : String} (h : IsFresh taken name fresh)
    (hnext : IsFresh (taken ++ [fresh]) fresh next) : IsFresh (taken ++ [fresh]) name next := by
  obtain ⟨n, rfl, -, hbelow⟩ := h
  obtain ⟨k, rfl, hfree, hbetween⟩ := hnext
  refine ⟨k + n, exported_exported k n name, hfree, fun m hm => ?_⟩
  rcases Nat.lt_or_ge m n with hlt | hle
  · exact List.mem_append_left _ (hbelow m hlt)
  · obtain ⟨i, rfl⟩ := Nat.exists_eq_add_of_le' hle
    rw [← exported_exported]
    exact hbetween i (by omega)

end IsFresh

end Fresh

/-- The name under which a label is kept beside those that have theirs. -/
def nextName (merged : Labels) (name : String) : String :=
  freshName (merged.map (·.1)) merged.length name

def keep (merged : Labels) (l : String × String) : Labels :=
  merged ++ [(nextName merged l.1, l.2)]

/-- Two labels with different values are after the same name when some others have theirs. -/
def Contested (constants scraped : Labels) : Prop :=
  ∃ before x y rest, scraped.Perm (before ++ x :: y :: rest) ∧ x.2 ≠ y.2 ∧
    nextName (withConstants constants before) x.1 = nextName (withConstants constants before) y.1

section Keep

variable {constants merged merged' scraped scraped' before : Labels} {x y : String × String}

theorem withConstants_cons (merged : Labels) (l : String × String) (rest : Labels) :
    withConstants merged (l :: rest) = withConstants (keep merged l) rest := rfl

theorem withConstants_append (constants before rest : Labels) :
    withConstants constants (before ++ rest) =
      withConstants (withConstants constants before) rest :=
  List.foldl_append

theorem nextName_isFresh (merged : Labels) (name : String) :
    IsFresh (merged.map (·.1)) name (nextName merged name) := by
  have h := freshName_isFresh (merged.map (·.1)) name
  rwa [List.length_map] at h

theorem nextName_perm (h : (merged.map (·.1)).Perm (merged'.map (·.1))) (name : String) :
    nextName merged name = nextName merged' name :=
  ((nextName_isFresh merged name).perm h).unique (nextName_isFresh merged' name)

theorem mem_keep (merged : Labels) (l : String × String) :
    (nextName merged l.1, l.2) ∈ keep merged l :=
  List.mem_append_right _ (List.mem_singleton_self _)

theorem keep_names (merged : Labels) (l : String × String) :
    (keep merged l).map (·.1) = merged.map (·.1) ++ [nextName merged l.1] := by
  simp [keep]

theorem keep_perm (h : merged.Perm merged') (l : String × String) :
    (keep merged l).Perm (keep merged' l) := by
  unfold keep
  rw [nextName_perm (h.map _)]
  exact h.append_right _

theorem keep_nodup (h : (merged.map (·.1)).Nodup) (l : String × String) :
    ((keep merged l).map (·.1)).Nodup := by
  obtain ⟨-, -, hfree, -⟩ := nextName_isFresh merged l.1
  rw [keep_names, List.nodup_append]
  refine ⟨h, List.nodup_singleton _, ?_⟩
  rintro a ha b hb rfl
  exact hfree (List.mem_singleton.mp hb ▸ ha)

/-- Labels after different names do not get in each other's way. -/
theorem nextName_keep_of_ne (h : nextName merged x.1 ≠ nextName merged y.1) :
    nextName (keep merged y) x.1 = nextName merged x.1 := by
  have hfresh := nextName_isFresh (keep merged y) x.1
  rw [keep_names] at hfresh
  exact hfresh.unique ((nextName_isFresh merged x.1).keep h)

/-- Of two labels after the same name the second gets the name that follows. -/
theorem nextName_keep_of_eq (h : nextName merged x.1 = nextName merged y.1) :
    nextName (keep merged y) x.1 = nextName (keep merged x) y.1 := by
  have hx := nextName_isFresh merged x.1
  have hy := nextName_isFresh merged y.1
  have hafterY := nextName_isFresh (keep merged y) x.1
  have hafterX := nextName_isFresh (keep merged x) y.1
  have hnext := freshName_isFresh (merged.map (·.1) ++ [nextName merged y.1]) (nextName merged y.1)
  rw [keep_names] at hafterY hafterX
  rw [h] at hx hafterX
  exact (hafterY.unique (hx.go_on hnext)).trans (hafterX.unique (hy.go_on hnext)).symm

/-- Two neighbours may change places unless they differ and are after the same name. -/
theorem keep_swap (h : nextName merged x.1 = nextName merged y.1 → x.2 = y.2) :
    (keep (keep merged x) y).Perm (keep (keep merged y) x) := by
  have hswap : ∀ a b : String × String, (merged ++ [a] ++ [b]).Perm (merged ++ [b] ++ [a]) := by
    intro a b
    simp only [List.append_assoc]
    exact (List.Perm.swap b a []).append_left merged
  by_cases heq : nextName merged x.1 = nextName merged y.1
  · have hvalue := h heq
    have hnext := nextName_keep_of_eq heq
    unfold keep at hnext ⊢
    rw [hnext, heq, hvalue]
  · have hxy := nextName_keep_of_ne heq
    have hyx := nextName_keep_of_ne (Ne.symm heq)
    unfold keep at hxy hyx ⊢
    rw [hxy, hyx]
    exact hswap _ _

/-- The names are the same even where the values have changed places. -/
theorem keep_swap_names (merged : Labels) (x y : String × String) :
    ((keep (keep merged x) y).map (·.1)).Perm ((keep (keep merged y) x).map (·.1)) := by
  simp only [keep_names]
  by_cases heq : nextName merged x.1 = nextName merged y.1
  · rw [nextName_keep_of_eq heq, heq]
  · rw [nextName_keep_of_ne heq, nextName_keep_of_ne (Ne.symm heq), List.append_assoc,
      List.append_assoc]
    exact (List.Perm.swap _ _ []).append_left _

theorem withConstants_perm_left (h : merged.Perm merged') (scraped : Labels) :
    (withConstants merged scraped).Perm (withConstants merged' scraped) := by
  induction scraped generalizing merged merged' with
  | nil => exact h
  | cons l rest ih => exact ih (keep_perm h l)

theorem withConstants_names_left (h : (merged.map (·.1)).Perm (merged'.map (·.1)))
    (scraped : Labels) :
    ((withConstants merged scraped).map (·.1)).Perm
      ((withConstants merged' scraped).map (·.1)) := by
  induction scraped generalizing merged merged' with
  | nil => exact h
  | cons l rest ih =>
    rw [withConstants_cons, withConstants_cons]
    refine ih ?_
    rw [keep_names, keep_names, nextName_perm h]
    exact h.append_right _

theorem withConstants_names (constants : Labels) (hp : scraped.Perm scraped') :
    ((withConstants constants scraped).map (·.1)).Perm
      ((withConstants constants scraped').map (·.1)) := by
  induction hp generalizing constants with
  | nil => exact .refl _
  | cons l _ ih => exact ih (keep constants l)
  | swap x y rest => exact withConstants_names_left (keep_swap_names constants y x) rest
  | trans _ _ ih₁ ih₂ => exact (ih₁ constants).trans (ih₂ constants)

theorem mem_withConstants {l : String × String} (h : l ∈ merged) (scraped : Labels) :
    l ∈ withConstants merged scraped := by
  induction scraped generalizing merged with
  | nil => exact h
  | cons _ rest ih => exact ih (List.mem_append_left _ h)

theorem withConstants_nodup (h : (merged.map (·.1)).Nodup) (scraped : Labels) :
    ((withConstants merged scraped).map (·.1)).Nodup := by
  induction scraped generalizing merged with
  | nil => exact h
  | cons l rest ih => exact ih (keep_nodup h l)

theorem Contested.perm (h : Contested constants scraped) (hp : scraped.Perm scraped') :
    Contested constants scraped' := by
  obtain ⟨before, x, y, rest, hsplit, hclash⟩ := h
  exact ⟨before, x, y, rest, hp.symm.trans hsplit, hclash⟩

/-- Where nothing is contested the order does not matter. -/
theorem withConstants_perm (hp : scraped.Perm scraped')
    (hno : ¬ Contested constants (before ++ scraped)) :
    (withConstants constants (before ++ scraped)).Perm
      (withConstants constants (before ++ scraped')) := by
  induction hp generalizing before with
  | nil => exact .refl _
  | @cons l first second _ ih =>
    rw [List.append_cons before l first] at hno ⊢
    rw [List.append_cons before l second]
    exact ih hno
  | swap x y rest =>
    rw [withConstants_append, withConstants_append]
    refine withConstants_perm_left (keep_swap fun heq => ?_) rest
    by_contra hne
    exact hno ⟨before, y, x, rest, .refl _, hne, heq⟩
  | trans hp _ ih₁ ih₂ =>
    exact (ih₁ hno).trans (ih₂ fun h => hno (h.perm (hp.symm.append_left before)))

/-- Labels that are after different names from the start all get these names. -/
theorem nextName_withConstants (h : (scraped.map fun l => nextName constants l.1).Nodup)
    {rest : Labels} (hp : scraped.Perm (before ++ x :: rest)) :
    nextName (withConstants constants before) x.1 = nextName constants x.1 := by
  have hsplit := (hp.map fun l => nextName constants l.1).nodup_iff.mp h
  clear hp
  induction before using List.reverseRecOn generalizing x rest with
  | nil => rfl
  | append_singleton before y ih =>
    rw [List.append_assoc, List.singleton_append] at hsplit
    have hy := ih hsplit
    have hx : nextName (withConstants constants before) x.1 = nextName constants x.1 := by
      refine @ih x (y :: rest) ?_
      have hswap : (before ++ y :: x :: rest).Perm (before ++ x :: y :: rest) :=
        (List.Perm.swap x y rest).append_left before
      exact (hswap.map _).nodup_iff.mp hsplit
    have hne : nextName constants x.1 ≠ nextName constants y.1 := by
      intro heq
      rw [List.map_append, List.nodup_append] at hsplit
      simp [heq] at hsplit
    have hkeep := @nextName_keep_of_ne (withConstants constants before) x y (by rwa [hx, hy])
    rw [withConstants_append]
    exact hkeep.trans hx

theorem not_contested_of_nodup (h : (scraped.map fun l => nextName constants l.1).Nodup) :
    ¬ Contested constants scraped := by
  rintro ⟨before, x, y, rest, hp, -, heq⟩
  have hswap : (before ++ x :: y :: rest).Perm (before ++ y :: x :: rest) :=
    (List.Perm.swap y x rest).append_left before
  rw [nextName_withConstants h hp, nextName_withConstants h (hp.trans hswap)] at heq
  have hsplit := (hp.map fun l => nextName constants l.1).nodup_iff.mp h
  rw [List.map_append, List.nodup_append] at hsplit
  simp [heq] at hsplit

/-- Where something is contested two orders give a name two values. -/
theorem Contested.exists_orders (h : Contested constants scraped)
    (hc : (constants.map (·.1)).Nodup) :
    ∃ first second, scraped.Perm first ∧ scraped.Perm second ∧
      (withConstants constants first).toFinset ≠ (withConstants constants second).toFinset := by
  obtain ⟨before, x, y, rest, hsplit, hvalue, hname⟩ := h
  have hswap : (x :: y :: rest).Perm (y :: x :: rest) := .swap y x rest
  refine ⟨_, _, hsplit, hsplit.trans (hswap.append_left before), fun hsame => ?_⟩
  rw [withConstants_append, withConstants_append] at hsame
  generalize hmerged : withConstants constants before = merged at hname hsame
  have hnodup : (merged.map (·.1)).Nodup := hmerged ▸ withConstants_nodup hc before
  have hx : (nextName merged x.1, x.2) ∈ withConstants merged (y :: x :: rest) := by
    rw [← List.mem_toFinset, ← hsame, List.mem_toFinset]
    exact mem_withConstants (mem_keep merged x) (y :: rest)
  have hy : (nextName merged x.1, y.2) ∈ withConstants merged (y :: x :: rest) := by
    rw [hname]
    exact mem_withConstants (mem_keep merged y) (x :: rest)
  have hpairs := withConstants_nodup hnodup (y :: x :: rest)
  have hpair := List.inj_on_of_nodup_map hpairs hx hy rfl
  exact hvalue (Prod.mk.inj hpair).2

end Keep

/-- A sample read from a line that has the name and, in some order, the labels of a given one. -/
def Reordered (constants : Labels) (p : SampleParts) (s : Sample) : Prop :=
  ∃ line q, SampleText line q ∧ q.name = p.name ∧ q.labels.Perm p.labels ∧
    readSample constants line = .ok s

def SameSeries (s t : Sample) : Prop :=
  ∀ moves, ∀ a ∈ Shared.empty.answers moves, ∀ b ∈ Shared.empty.answers moves,
    a.1.name = s.name → a.1.labels = s.labels → b.1.name = t.name → b.1.labels = t.labels →
    a.2 = b.2

section Lines

variable {constants : Labels} {line : List Char} {p : SampleParts} {s t : Sample}

theorem sameSeries_iff :
    SameSeries s t ↔ s.name = t.name ∧ s.labels.toFinset = t.labels.toFinset := by
  have hiff (moves : List Shared.Move) : ∀ a ∈ Shared.empty.answers moves,
      ∀ b ∈ Shared.empty.answers moves, (a.2 = b.2 ↔
        a.1.name = b.1.name ∧ a.1.labels.toFinset = b.1.labels.toFinset) := by
    intro a ha b hb
    obtain ⟨hserves, -, hsound⟩ := Shared.run_sound moves Shared.empty_serves
    exact hserves.wellFormed.series_eq_iff (hsound a ha) (hsound b hb)
  constructor
  · intro h
    -- one transaction that asks for both
    let request (s : Sample) : SeriesRequest := ⟨s.name, "untyped", "", s.labels⟩
    let moves : List Shared.Move := [.transaction 0 [request s, request t] true]
    obtain ⟨hall, -⟩ := Shared.answers_requests moves Shared.empty_serves
    have hknown : ∀ r ∈ [request s, request t],
        r ∈ (moves.flatMap Shared.Move.asked).filter
          fun r => (MetricKind.ofName? r.kind).isSome := by
      simp [moves, Shared.Move.asked, request, MetricKind.ofName?, MetricKind.all, MetricKind.name]
    have hanswered : ∀ r ∈ [request s, request t], ∃ id, (r, id) ∈ Shared.empty.answers moves := by
      intro r hr
      obtain ⟨⟨_, id⟩, ha, rfl⟩ := List.mem_map.mp (hall.subset (hknown r hr))
      exact ⟨id, ha⟩
    obtain ⟨i, hi⟩ := hanswered (request s) (by simp)
    obtain ⟨j, hj⟩ := hanswered (request t) (by simp)
    exact (hiff moves _ hi _ hj).mp (h moves _ hi _ hj rfl rfl rfl rfl)
  · rintro ⟨hname, hlabels⟩ moves a ha b hb has hal hbt hbl
    rw [hiff moves a ha b hb, has, hal, hbt, hbl]
    exact ⟨hname, hlabels⟩

theorem ItemsText.names {text : List Char} {items : List (List Char × List Char)}
    (h : ItemsText text items) : ∀ item ∈ items, NameText isLabelStart isLabelChar item.1 := by
  induction h with
  | none => simp
  | last _ hi =>
    cases hi with
    | intro hn => simpa using hn
  | next _ hi _ _ ih =>
    cases hi with
    | intro hn => exact List.forall_mem_cons.mpr ⟨hn, ih⟩

/-- What is read from a line with a derivation. -/
theorem SampleText.read_eq (h : SampleText line p) (hs : readSample constants line = .ok s) :
    s.name = String.ofList p.name ∧ s.labels = withConstants constants (p.labels.map label) := by
  obtain ⟨x, t, hnames⟩ := h.exists_names
  rw [readSample_complete h hnames constants] at hs
  cases hs
  exact ⟨rfl, rfl⟩

/-- The labels of a line may be written in any order. -/
theorem SampleText.exists_reordered (h : SampleText line p) {labels : Labels}
    (hl : (p.labels.map label).Perm labels) (hne : labels ≠ []) (constants : Labels) :
    ∃ s, Reordered constants p s ∧ s.labels = withConstants constants labels := by
  let unlabel (l : String × String) : List Char × List Char := (l.1.toList, l.2.toList)
  have hlabel : (labels.map unlabel).map label = labels := by
    simp [unlabel, label, Function.comp_def]
  have hperm : (labels.map unlabel).Perm p.labels := by
    have hback : (p.labels.map label).map unlabel = p.labels := by
      simp [unlabel, label, Function.comp_def]
    exact hback ▸ (hl.map unlabel).symm
  cases h with
  | bare => exact absurd hl.symm.eq_nil hne
  | @braced name gap list fields value items stamp hn hg hlist hd hf =>
    have hnames : ∀ l ∈ labels, NameText isLabelStart isLabelChar l.1.toList := fun l hm =>
      hlist.names _ (hperm.subset (List.mem_map_of_mem (f := unlabel) hm))
    have hdistinct : ((labels.map unlabel).map (·.1)).Nodup := (hperm.map _).nodup_iff.mpr hd
    have htext := SampleText.braced hn (all_nil : Space []) (itemsText_labels hne hnames)
      hdistinct hf
    obtain ⟨x, t, hread⟩ := htext.exists_names
    exact ⟨_, ⟨_, _, htext, rfl, hperm, readSample_complete htext hread constants⟩,
      congrArg (withConstants constants) hlabel⟩

/-- Whatever the order of its labels, a line gives a sample the same label names. The values stand
under the same names, and the series is the same, exactly if no two labels with different values
are ever after the same name. -/
theorem readSample_reordered_iff (hc : (constants.map (·.1)).Nodup) (h : SampleText line p)
    (hs : readSample constants line = .ok s) :
    (∀ t, Reordered constants p t → (t.labels.map (·.1)).Perm (s.labels.map (·.1))) ∧
    ((∀ t, Reordered constants p t → t.labels.toFinset = s.labels.toFinset) ↔
      ¬ Contested constants (p.labels.map label)) ∧
    ((∀ t, Reordered constants p t → SameSeries s t) ↔
      ¬ Contested constants (p.labels.map label)) := by
  obtain ⟨hname, hlabels⟩ := h.read_eq hs
  have hother : ∀ t, Reordered constants p t → t.name = s.name ∧
      ∃ labels, (p.labels.map label).Perm labels ∧ t.labels = withConstants constants labels := by
    rintro t ⟨line, q, hq, hqname, hperm, ht⟩
    obtain ⟨htname, htlabels⟩ := hq.read_eq ht
    exact ⟨by rw [htname, hname, hqname], _, (hperm.map label).symm, htlabels⟩
  have hiff : (∀ t, Reordered constants p t → t.labels.toFinset = s.labels.toFinset) ↔
      ¬ Contested constants (p.labels.map label) := by
    constructor
    · intro hall hclash
      obtain ⟨first, second, hfirst, hsecond, hne⟩ := hclash.exists_orders hc
      have hlabels : ∀ labels, (p.labels.map label).Perm labels →
          (withConstants constants labels).toFinset = s.labels.toFinset := by
        intro labels hl
        by_cases hnil : labels = []
        · rw [hnil] at hl
          rw [hlabels, hnil, hl.eq_nil]
        · obtain ⟨t, ht, htlabels⟩ := h.exists_reordered hl hnil constants
          rw [← htlabels, hall t ht]
      exact hne ((hlabels first hfirst).trans (hlabels second hsecond).symm)
    · intro hno t ht
      obtain ⟨-, labels, hl, htlabels⟩ := hother t ht
      rw [htlabels, hlabels]
      exact List.toFinset_eq_of_perm _ _ (@withConstants_perm constants _ _ [] hl hno).symm
  refine ⟨fun t ht => ?_, hiff, Iff.trans ?_ hiff⟩
  · obtain ⟨-, labels, hl, htlabels⟩ := hother t ht
    rw [htlabels, hlabels]
    exact (withConstants_names constants hl).symm
  · refine forall₂_congr fun t ht => ?_
    rw [sameSeries_iff, (hother t ht).1]
    simp [eq_comm]

/-- Renaming the label that clashes leaves the other one alone, in either order. -/
theorem readSample_reordered_iff_renamed :
    let constants : Labels := [("job", "p")]
    let line := "up\x7bjob=\"n\",i=\"7\"\x7d 1".toList
    let p : SampleParts := ⟨['u', 'p'], [(['j', 'o', 'b'], ['n']), (['i'], ['7'])], ['1'], none⟩
    let s : Sample :=
      ⟨"up", [("job", "p"), ("exported_job", "n"), ("i", "7")], .ofDecimal false 1 0, none⟩
    (constants.map (·.1)).Nodup ∧ SampleText line p ∧ readSample constants line = .ok s ∧
      ∀ t, Reordered constants p t → t.labels.toFinset = s.labels.toFinset := by
  intro constants line p s
  have hjob : ItemText ['j', 'o', 'b', '=', '"', 'n', '"'] (['j', 'o', 'b'], ['n']) :=
    @ItemText.intro ['j', 'o', 'b'] [] [] ['n'] ['n'] (.intro (by decide) (by decide)) all_nil
      all_nil (.plain (by decide) (by decide) .nil)
  have hi : ItemText ['i', '=', '"', '7', '"'] (['i'], ['7']) :=
    .intro (.intro (by decide) all_nil) all_nil all_nil (.plain (by decide) (by decide) .nil)
  have hlist := ItemsText.next (all_nil : Space []) hjob (all_nil : Space [])
    (.last (all_nil : Space []) hi (all_nil : Space []))
  have hone : NumberText ['1'] (.ofDecimal false 1 0) :=
    .decimal .absent (@MantissaText.whole ['1'] (by decide) (by decide)) .absent
  have hname : NameText isMetricStart isMetricChar ['u', 'p'] := .intro (by decide) (by decide)
  have htext : SampleText line p := by
    have hblank : All isBlank [' '] := by decide
    exact .braced hname (all_nil : Space []) hlist (by decide) (.plain hblank hone)
  have hread : readSample constants line = .ok s := readSample_complete htext ⟨hone, .none⟩ _
  have hnodup : (constants.map (·.1)).Nodup := by decide
  have hno : ¬ Contested constants (p.labels.map label) := not_contested_of_nodup (by decide)
  exact ⟨hnodup, htext, hread, (readSample_reordered_iff hnodup htext hread).2.1.mpr hno⟩

/-- The labels `a` and `exported_a` beside a constant `a` change places with their order. -/
theorem readSample_swapped_labels :
    let s : Sample := ⟨"m", [("a", "1"), ("exported_a", "x"), ("exported_exported_a", "y")],
      .ofDecimal false 1 0, none⟩
    let t : Sample := ⟨"m", [("a", "1"), ("exported_a", "y"), ("exported_exported_a", "x")],
      .ofDecimal false 1 0, none⟩
    readSample [("a", "1")] "m\x7ba=\"x\",exported_a=\"y\"\x7d 1".toList = .ok s ∧
      readSample [("a", "1")] "m\x7bexported_a=\"y\",a=\"x\"\x7d 1".toList = .ok t ∧
      s.labels.toFinset ≠ t.labels.toFinset ∧ ¬ SameSeries s t := by
  refine ⟨by decide +kernel, by decide +kernel, by decide, ?_⟩
  rw [sameSeries_iff]
  decide

end Lines

end MetricArchive.Exposition
