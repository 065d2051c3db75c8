import MetricArchive.Proofs.Exposition.SampleNames
import MetricArchive.Proofs.Store.NormalForm
import MetricArchive.Proofs.Text.Cuts
import MetricArchive.Store.View

/-!
# Series by name

The name of a series is put together from texts that are not escaped, so a label value may hold what
separates labels. What it may not hold is a quote: between quotes stands a value, and what is not
between quotes is a label name with separators. Main statement: where no label value holds a quote,
any run of writes of parsed scrapes leaves a view with one row for each series, in which no name
occurs twice and each name gives back the metric and the label pairs.
-/
namespace MetricArchive

open Text Exposition

namespace Store

def seriesName (metric : String) (rows : List LabelRow) : String :=
  metric ++ "\x7b" ++ ", ".intercalate (rows.map labelText) ++ "\x7d"

/-- The label pairs of a text that was cut at its quotes: what stands in front of a quote holds a
label name and separators, and what stands behind it is the value. -/
def readQuotedPairs : List (List Char) → Labels
  | name :: value :: rest =>
    (String.ofList (name.filter isLabelChar), String.ofList value) :: readQuotedPairs rest
  | _ => []

def readSeriesName (name : String) : String × Labels :=
  let (metric, labels) := cutAt '{' name.toList
  (String.ofList metric, readQuotedPairs (split '"' (labels.getD [])))

section Names

variable {metric : String} {rows : List LabelRow} {lead : List Char}

def isSeparator (c : Char) : Bool := !isLabelChar c && c != '"'

def labelsTail (rows : List LabelRow) : List Char :=
  [',', ' '].intercalate (rows.map fun r => (labelText r).toList) ++ ['}']

theorem labelsTail_cons (r : LabelRow) (rest : List LabelRow) : ∃ lead, All isSeparator lead ∧
    labelsTail (r :: rest) = r.label.toList ++
      '=' :: '"' :: (r.value.toList ++ '"' :: (lead ++ labelsTail rest)) := by
  cases rest with
  | nil => exact ⟨[], all_nil, by simp [labelsTail, labelText]⟩
  | cons next rest =>
    refine ⟨[',', ' '], by decide, ?_⟩
    simp [labelsTail, labelText, List.intercalate_cons_cons]

theorem quote_not_mem_of_separators (h : All isSeparator lead) : '"' ∉ lead :=
  fun hmem => absurd (h _ hmem) (by decide)

/-- One label is read off, whatever separates it from what was in front of it. -/
theorem readQuotedPairs_label {name value : String} (hl : All isSeparator lead)
    (hn : LabelName name) (hv : '"' ∉ value.toList) (rest : List Char) :
    readQuotedPairs (split '"'
      (lead ++ (name.toList ++ '=' :: '"' :: (value.toList ++ '"' :: rest)))) =
      (name, value) :: readQuotedPairs (split '"' rest) := by
  have hfront : '"' ∉ lead ++ (name.toList ++ ['=']) := by
    have hname : '"' ∉ name.toList := fun hmem => absurd (hn.all _ hmem) (by decide)
    simp [quote_not_mem_of_separators hl, hname]
  have hdropped : lead.filter isLabelChar = [] := by
    refine List.filter_eq_nil_iff.mpr fun c hc => ?_
    have hsep := hl c hc
    simp only [isSeparator, Bool.and_eq_true, Bool.not_eq_true'] at hsep
    simp [hsep.1]
  have hkept : (lead ++ (name.toList ++ ['='])).filter isLabelChar = name.toList := by
    rw [List.filter_append, List.filter_append, hdropped, List.filter_eq_self.mpr hn.all]
    simp [isLabelChar, isLabelStart, isLetter, isAsciiDigit]
  have htext : lead ++ (name.toList ++ '=' :: '"' :: (value.toList ++ '"' :: rest)) =
      (lead ++ (name.toList ++ ['='])) ++ '"' :: (value.toList ++ '"' :: rest) := by simp
  rw [htext, split_run hfront, split_run hv, readQuotedPairs, hkept, String.ofList_toList,
    String.ofList_toList]

theorem readQuotedPairs_labelsTail (hl : All isSeparator lead)
    (hr : ∀ r ∈ rows, LabelName r.label ∧ '"' ∉ r.value.toList) :
    readQuotedPairs (split '"' (lead ++ labelsTail rows)) =
      rows.map fun r => (r.label, r.value) := by
  induction rows generalizing lead with
  | nil =>
    have hclosing : '"' ∉ lead ++ labelsTail [] := by
      simp [labelsTail, quote_not_mem_of_separators hl]
    rw [split_of_not_mem hclosing]
    rfl
  | cons r rest ih =>
    obtain ⟨⟨hname, hvalue⟩, hrest⟩ := List.forall_mem_cons.mp hr
    obtain ⟨next, hnext, htext⟩ := labelsTail_cons r rest
    rw [htext, readQuotedPairs_label hl hname hvalue, ih hnext hrest, List.map_cons]

theorem readSeriesName_seriesName (hm : MetricName metric)
    (hr : ∀ r ∈ rows, LabelName r.label ∧ '"' ∉ r.value.toList) :
    readSeriesName (seriesName metric rows) =
      (metric, rows.map fun r => (r.label, r.value)) := by
  have hbrace : '{' ∉ metric.toList := by
    have hall : All isMetricChar metric.toList :=
      hm.all (fun _ => isMetricChar_of_isMetricStart) fun _ hc => hc
    exact fun hmem => absurd (hall _ hmem) (by decide)
  have htext : (seriesName metric rows).toList = metric.toList ++ '{' :: labelsTail rows := by
    simp [seriesName, labelsTail, String.toList_intercalate, Function.comp_def]
  have hlabels := readQuotedPairs_labelsTail all_nil hr
  rw [readSeriesName, htext, cutAt_run hbrace]
  simpa using hlabels

end Names

section View

variable {s : Store} {id : Nat}

theorem mem_memberLabels {r : LabelRow} :
    r ∈ s.memberLabels id ↔ r ∈ s.labels ∧ ⟨r.id, id⟩ ∈ s.members := by
  rw [← mem_memberIds]
  simp only [memberLabels, List.mem_flatMap, List.mem_mergeSort, List.mem_filter, beq_iff_eq]
  constructor
  · rintro ⟨l, hl, hr, rfl⟩
    exact ⟨hr, hl⟩
  · rintro ⟨hr, hl⟩
    exact ⟨r.id, hl, hr, rfl⟩

/-- Each identifier of a member stands for one row. -/
theorem memberLabels_ids (h : s.WellFormed) (id : Nat) :
    (s.memberLabels id).map (·.id) = (s.memberIds id).mergeSort := by
  have hrow : ∀ l ∈ (s.memberIds id).mergeSort,
      (s.labels.filter (·.id == l)).map (·.id) = [l] := by
    intro l hl
    obtain ⟨row, hrow, rfl⟩ := h.memberLabel _ (mem_memberIds.mp (List.mem_mergeSort.mp hl))
    rw [filter_eq_singleton h.labelIds hrow, List.map_singleton]
  unfold memberLabels
  rw [List.map_flatMap]
  exact (List.flatMap_congr hrow).trans (List.flatMap_singleton' _)

theorem memberLabels_ascending (h : s.WellFormed) (id : Nat) :
    ((s.memberLabels id).map (·.id)).Pairwise (· < ·) := by
  rw [memberLabels_ids h]
  have hsorted : (s.memberIds id).mergeSort.Pairwise (· ≤ ·) := by
    have hle : (s.memberIds id).mergeSort.Pairwise fun a b => decide (a ≤ b) = true :=
      List.pairwise_mergeSort (by simpa using fun a b c => Nat.le_trans)
        (by simpa using Nat.le_total) _
    exact hle.imp of_decide_eq_true
  have honce : (s.memberIds id).mergeSort.Nodup :=
    (List.mergeSort_perm _ _).nodup_iff.mpr (memberIds_nodup h.membersOnce id)
  exact (hsorted.and honce).imp fun ⟨hle, hne⟩ => Nat.lt_of_le_of_ne hle hne

theorem nodup_eraseDups (ids : List Nat) : ids.eraseDups.Nodup := by
  induction ids using List.reverseRecOn with
  | nil => simp
  | append_singleton ids id ih =>
    rw [List.eraseDups_append]
    by_cases hid : id ∈ ids
    · simpa [List.removeAll, hid] using ih
    · refine ih.append (by simp [List.removeAll, hid, List.eraseDups_cons]) ?_
      simp [List.removeAll, hid, List.eraseDups_cons]

/-- A series without label pairs has no row in the view of label sets, and then the text that
stands for it is the one that its label set has. -/
theorem labelTexts_labelSetView (s : Store) (id : Nat) :
    labelTexts s.labelSetView id = [s.labelSetText id] := by
  let ids := ((s.members.map (·.seriesId)).eraseDups.mergeSort).filter
    fun id => !(s.memberLabels id).isEmpty
  have hmem : id ∈ ids ↔ s.memberLabels id ≠ [] := by
    simp only [ids, List.mem_filter, List.mem_mergeSort, List.mem_eraseDups, List.mem_map,
      Bool.not_eq_true', List.isEmpty_eq_false_iff, and_iff_right_iff_imp]
    intro hne
    obtain ⟨r, hr⟩ := List.exists_mem_of_ne_nil _ hne
    exact ⟨_, (mem_memberLabels.mp hr).2, rfl⟩
  have honce : ids.Nodup :=
    ((List.mergeSort_perm _ _).nodup_iff.mpr (nodup_eraseDups _)).filter _
  have htexts : (s.labelSetView.filter (·.1 == id)).map (·.2) =
      (ids.filter (· == id)).map s.labelSetText := by
    simp [labelSetView, ids, List.filter_map, Function.comp_def]
  rw [labelTexts, htexts, List.filter_beq]
  by_cases hne : s.memberLabels id = []
  · have hcount : ids.count id = 0 := List.count_eq_zero.mpr fun h => hmem.mp h hne
    simp [hcount, labelSetText, hne]
  · rw [List.count_eq_one_of_mem honce (hmem.mpr hne)]
    rfl

theorem mem_seriesView {row : Nat × String} : row ∈ s.seriesView ↔
    ∃ x ∈ s.series, ∃ m ∈ s.metrics, m.id = x.metricId ∧
      row = (x.id, seriesName m.name (s.memberLabels x.id)) := by
  simp only [seriesView, labelTexts_labelSetView, List.mem_flatMap, List.mem_filter, beq_iff_eq,
    List.map_cons, List.map_nil, List.mem_singleton, and_assoc]
  rfl

/-- A series has one row, because it has one metric and one label set. -/
theorem seriesView_ids (h : s.WellFormed) : s.seriesView.map (·.1) = s.series.map (·.id) := by
  rw [seriesView, List.map_flatMap, ← List.flatMap_pure_eq_map]
  refine List.flatMap_congr fun x hx => ?_
  obtain ⟨m, hm, he⟩ := h.seriesMetric x hx
  rw [← he, filter_eq_singleton h.metricIds hm, labelTexts_labelSetView]
  rfl

/-- A series is one of its metric with the label pairs that it has. -/
theorem WellFormed.isSeries (h : s.WellFormed) {x : SeriesRow} (hx : x ∈ s.series) {m : MetricRow}
    (hm : m ∈ s.metrics) (he : m.id = x.metricId) :
    s.IsSeries m.name (s.labelPairs x.id) x.id := by
  refine ⟨x.metricId, s.memberIds x.id, ⟨m, hm, rfl, he⟩, ⟨hx, fun _ => mem_memberIds⟩, ?_, ?_⟩
  · intro l hl
    obtain ⟨row, hrow, rfl⟩ := h.memberLabel _ (mem_memberIds.mp hl)
    exact ⟨(row.label, row.value), mem_labelPairs.mpr ⟨_, mem_memberIds.mp hl, hrow⟩, hrow⟩
  · intro p hp
    obtain ⟨l, hl, hpl⟩ := mem_labelPairs.mp hp
    exact ⟨l, mem_memberIds.mpr hl, hpl⟩

theorem labelPairs_eq_memberLabels (s : Store) (id : Nat) :
    s.labelPairs id = ((s.memberLabels id).map fun r => (r.label, r.value)).toFinset := by
  ext p
  rw [mem_labelPairs, List.mem_toFinset, List.mem_map]
  constructor
  · rintro ⟨l, hm, hl⟩
    exact ⟨_, mem_memberLabels.mpr ⟨hl, hm⟩, rfl⟩
  · rintro ⟨r, hr, rfl⟩
    obtain ⟨hl, hm⟩ := mem_memberLabels.mp hr
    exact ⟨r.id, hm, hl⟩

end View

structure WellNamed (s : Store) : Prop where
  metrics : ∀ m ∈ s.metrics, MetricName m.name
  labels : ∀ r ∈ s.labels, LabelName r.label

section WellNamed

variable {s : Store} {seen : List Observation}

/-- What is said of a series is said by one of the observations that the points stand for. -/
theorem Normalized.exists_observation (h : s.Normalized)
    (hp : List.Forall₂ s.Shows s.points seen) {x : SeriesRow} (hx : x ∈ s.series) {m : MetricRow}
    (hm : m ∈ s.metrics) (he : m.id = x.metricId) :
    ∃ e ∈ seen, e.metric = m.name ∧ e.labels = s.labelPairs x.id := by
  obtain ⟨p, hpoint, hid⟩ := List.mem_map.mp (h.seriesUsed x hx)
  obtain ⟨i, hi, rfl⟩ := List.getElem_of_mem hpoint
  obtain ⟨hlength, hshows⟩ := List.forall₂_iff_get.mp hp
  have hseen : i < seen.length := hlength ▸ hi
  have hseries : s.IsSeries seen[i].metric seen[i].labels x.id :=
    hid ▸ (hshows i hi hseen).series
  exact ⟨_, List.getElem_mem hseen,
    (h.series_eq_iff hseries (h.isSeries hx hm he)).mp rfl⟩

/-- Tables without garbage hold no other names than those that were observed. -/
theorem Normalized.wellNamed (h : s.Normalized) (hp : List.Forall₂ s.Shows s.points seen)
    (hs : ∀ e ∈ seen, MetricName e.metric ∧ ∀ l ∈ e.labels, LabelName l.1) : s.WellNamed where
  metrics m hm := by
    obtain ⟨x, hx, he⟩ := h.metricUsed m hm
    obtain ⟨e, hmem, hmetric, -⟩ := h.exists_observation hp hx hm he.symm
    exact hmetric ▸ (hs e hmem).1
  labels r hr := by
    obtain ⟨member, hmember, hlabel⟩ := h.labelUsed r hr
    obtain ⟨x, hx, hseries⟩ := h.memberSeries member hmember
    obtain ⟨m, hm, he⟩ := h.seriesMetric x hx
    obtain ⟨e, hmem, -, hlabels⟩ := h.exists_observation hp hx hm he
    have hpair : (r.label, r.value) ∈ s.labelPairs x.id :=
      mem_labelPairs.mpr ⟨r.id, by rw [← hlabel, hseries]; exact hmember, hr⟩
    exact (hs e hmem).2 _ (hlabels ▸ hpair)

/-- Where no value holds a quote, a series has a name that is read as what it is made of. -/
theorem WellNamed.readSeriesName (h : s.WellNamed) (hq : ∀ r ∈ s.labels, '"' ∉ r.value.toList)
    {m : MetricRow} (hm : m ∈ s.metrics) (id : Nat) :
    Store.readSeriesName (seriesName m.name (s.memberLabels id)) =
      (m.name, (s.memberLabels id).map fun r => (r.label, r.value)) := by
  refine readSeriesName_seriesName (h.metrics m hm) fun r hr => ?_
  have hmem := (mem_memberLabels.mp hr).1
  exact ⟨h.labels r hmem, hq r hmem⟩

/-- Two series of one name have one metric and one set of label pairs, so they are one. -/
theorem WellFormed.seriesNames_nodup (h : s.WellFormed) (hn : s.WellNamed)
    (hq : ∀ r ∈ s.labels, '"' ∉ r.value.toList) : (s.seriesView.map (·.2)).Nodup := by
  have hids : (s.seriesView.map (·.1)).Nodup := by
    rw [seriesView_ids h]
    exact h.seriesIds.imp Nat.ne_of_lt
  refine hids.of_map.map_on ?_
  intro a ha b hb hname
  obtain ⟨x, hx, m, hm, he, rfl⟩ := mem_seriesView.mp ha
  obtain ⟨y, hy, n, hn', he', rfl⟩ := mem_seriesView.mp hb
  have hread := congrArg Store.readSeriesName hname
  simp only [hn.readSeriesName hq hm, hn.readSeriesName hq hn', Prod.mk.injEq] at hread
  obtain ⟨hmetric, hpairs⟩ := hread
  have hlabels : s.labelPairs x.id = s.labelPairs y.id := by
    rw [labelPairs_eq_memberLabels, labelPairs_eq_memberLabels, hpairs]
  have hid := (h.series_eq_iff (h.isSeries hx hm he) (h.isSeries hy hn' he')).mpr
    ⟨hmetric, hlabels⟩
  exact Prod.ext hid hname

end WellNamed

end Store

namespace Archive

open Store

def Move.Parsed : Move → Prop
  | .write _ _ s => s.Parsed
  | _ => True

theorem Move.Parsed.labelsKeyed {m : Move} (h : m.Parsed) : m.LabelsKeyed := by
  cases m with
  | write k attempt s => exact fun f hf p hp => (Scrape.Parsed.wellNamed h f hf p hp).labels.keyed
  | reopen k => trivial
  | clear k => trivial

theorem exists_move_of_written {a : Archive} {moves : List Move} {s : Scrape}
    (h : s ∈ a.written moves) : ∃ k attempt, .write k attempt s ∈ moves := by
  induction moves generalizing a with
  | nil => cases h
  | cons m rest ih =>
    rcases List.mem_append.mp h with hfirst | hrest
    · cases m with
      | write k attempt t =>
        simp only [committed] at hfirst
        split at hfirst
        · cases hfirst
        · rw [List.mem_singleton.mp hfirst]
          exact ⟨k, attempt, List.mem_cons_self⟩
      | reopen k => cases hfirst
      | clear k => cases hfirst
    · obtain ⟨k, attempt, hmem⟩ := ih hrest
      exact ⟨k, attempt, List.mem_cons_of_mem _ hmem⟩

theorem observed_wellNamed {a : Archive} {moves : List Move} (hm : ∀ m ∈ moves, m.Parsed) :
    ∀ e ∈ (a.written moves).flatMap Scrape.observations,
      MetricName e.metric ∧ ∀ l ∈ e.labels, LabelName l.1 := by
  intro e he
  obtain ⟨s, hs, he⟩ := List.mem_flatMap.mp he
  obtain ⟨f, hf, he⟩ := List.mem_flatMap.mp he
  obtain ⟨p, hp, rfl⟩ := List.mem_map.mp he
  obtain ⟨k, attempt, hmove⟩ := exists_move_of_written hs
  have hnamed := Scrape.Parsed.wellNamed (hm _ hmove) f hf p hp
  exact ⟨hnamed.metric, fun l hl => hnamed.labels.names l (List.mem_toFinset.mp hl)⟩

/-- Each series has one row in the view, and no two have the same name. A name is the metric with
the label pairs of the series in ascending order of their identifiers, and both can be read off. -/
theorem run_seriesView {moves : List Move} (hm : ∀ m ∈ moves, m.Parsed)
    (hq : ∀ r ∈ (empty.run moves).store.labels, '"' ∉ r.value.toList) :
    let s := (empty.run moves).store
    s.seriesView.map (·.1) = s.series.map (·.id) ∧ (s.series.map (·.id)).Nodup ∧
    (s.seriesView.map (·.2)).Nodup ∧
    ∀ x ∈ s.series, ∃ m ∈ s.metrics, m.id = x.metricId ∧ ∃ rows : List LabelRow,
      (rows.map (·.id)).Pairwise (· < ·) ∧
      (∀ r, r ∈ rows ↔ r ∈ s.labels ∧ ⟨r.id, x.id⟩ ∈ s.members) ∧
      (x.id, seriesName m.name rows) ∈ s.seriesView ∧
      readSeriesName (seriesName m.name rows) =
        (m.name, rows.map fun r => (r.label, r.value)) := by
  intro s
  have hholds := empty_holds.run moves
  have hnormal : s.Normalized :=
    empty_holds.normalized_run empty_normalized fun m hmem => (hm m hmem).labelsKeyed
  have hnamed : s.WellNamed := by
    rw [List.nil_append] at hholds
    exact hnormal.wellNamed hholds.shows (observed_wellNamed hm)
  refine ⟨seriesView_ids hnormal.toWellFormed, hnormal.seriesIds.imp Nat.ne_of_lt,
    hnormal.seriesNames_nodup hnamed hq, fun x hx => ?_⟩
  obtain ⟨m, hmetric, he⟩ := hnormal.seriesMetric x hx
  exact ⟨m, hmetric, he, s.memberLabels x.id, memberLabels_ascending hnormal.toWellFormed x.id,
    fun _ => mem_memberLabels, mem_seriesView.mpr ⟨x, hx, m, hmetric, he, rfl⟩,
    hnamed.readSeriesName hq hmetric x.id⟩

/-! Values that look like labels, and a series without any. -/

def lookalikes : Scrape :=
  ⟨.utc 0, [⟨"up", .untyped, "", [[("path", "a, b=\x7bc\x7d")], [("path", "a"), ("b", "\x7bc\x7d")],
    []].map fun labels => ⟨"up", labels, .ofDecimal false 1 0, none⟩⟩], "a"⟩

theorem lookalikes_parsed : lookalikes.Parsed := by
  let text := "up\x7bpath=\"a, b=\x7bc\x7d\"\x7d 1\nup\x7bpath=\"a\",b=\"\x7bc\x7d\"\x7d 1\nup 1\n"
  exact ⟨[], .text text.toList, ⟨nofun, by decide⟩, by decide +kernel⟩

theorem run_seriesView_lookalikes :
    let moves : List Move := [.write 0 (.disrupted .none) lookalikes]
    let s := (empty.run moves).store
    (∀ m ∈ moves, m.Parsed) ∧ (∀ r ∈ s.labels, '"' ∉ r.value.toList) ∧
      s.seriesView = [(1, "up\x7bpath=\"a, b=\x7bc\x7d\"\x7d"),
        (2, "up\x7bpath=\"a\", b=\"\x7bc\x7d\"\x7d"), (3, "up\x7b\x7d")] ∧
      (s.seriesView.map (·.2)).Nodup := by
  intro moves s
  have hparsed : ∀ m ∈ moves, m.Parsed := by
    intro m hm
    rw [List.mem_singleton.mp hm]
    exact lookalikes_parsed
  have hquoteless : ∀ r ∈ s.labels, '"' ∉ r.value.toList := by decide +kernel
  obtain ⟨-, -, hnames, -⟩ := run_seriesView hparsed hquoteless
  have hmetrics : s.metrics = [⟨1, "up", "untyped", ""⟩] := by decide +kernel
  have hlabels : s.labels =
      [⟨1, "path", "a, b=\x7bc\x7d"⟩, ⟨2, "path", "a"⟩, ⟨3, "b", "\x7bc\x7d"⟩] := by decide +kernel
  have hseries : s.series = [⟨1, 1⟩, ⟨2, 1⟩, ⟨3, 1⟩] := by decide +kernel
  have hmembers : s.members = [⟨1, 1⟩, ⟨2, 2⟩, ⟨3, 2⟩] := by decide +kernel
  refine ⟨hparsed, hquoteless, ?_, hnames⟩
  simp [seriesView, labelSetView, labelTexts, memberLabels, Store.labelSetText, Store.labelText,
    List.mergeSort, List.eraseDups_cons, hmetrics, hlabels, hseries, hmembers]

end Archive

end MetricArchive
