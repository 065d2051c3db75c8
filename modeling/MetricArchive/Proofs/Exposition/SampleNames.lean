import MetricArchive.Proofs.Exposition.Breakdown
import MetricArchive.Proofs.Exposition.DescriptionGrammar
import MetricArchive.Proofs.Exposition.LabelOrder
import MetricArchive.Proofs.Exposition.Placement

/-!
# The names of samples

A sample that is read has a metric name and, by the rules for label lists, label names. Constant
labels come from elsewhere, and a scraped label may be renamed, which puts letters in front of its
name. Main statement: if the names of the constant labels keep to the rules, those of every sample
of a payload do, and no name occurs twice in one sample.
-/
namespace MetricArchive

open Text

namespace Exposition

abbrev MetricName (name : String) : Prop := NameText isMetricStart isMetricChar name.toList

abbrev LabelName (name : String) : Prop := NameText isLabelStart isLabelChar name.toList

theorem isLabelChar_of_isLabelStart {c : Char} (h : isLabelStart c = true) :
    isLabelChar c = true := by
  simp [isLabelChar, h]

theorem LabelName.all {name : String} (h : LabelName name) : All isLabelChar name.toList :=
  NameText.all h (fun _ => isLabelChar_of_isLabelStart) fun _ hc => hc

theorem LabelName.exported {name : String} (h : LabelName name) (n : Nat) :
    LabelName (Exposition.exported n name) := by
  induction n generalizing name with
  | zero => exact h
  | succ n ih =>
    refine ih ?_
    have hlead : "exported_".toList = 'e' :: "xported_".toList := rfl
    rw [LabelName, String.toList_append, hlead]
    exact .intro (by decide) (all_append.mpr ⟨by decide, h.all⟩)

end Exposition

open Exposition

structure Labels.WellNamed (labels : Labels) : Prop where
  names : ∀ l ∈ labels, LabelName l.1
  keyed : (labels.map (·.1)).Nodup

structure Sample.WellNamed (p : Sample) : Prop where
  metric : MetricName p.name
  labels : p.labels.WellNamed

namespace Labels.WellNamed

variable {merged scraped : Labels} {l : String × String}

theorem keep (h : merged.WellNamed) (hl : LabelName l.1) :
    (Exposition.keep merged l).WellNamed where
  names := by
    obtain ⟨n, hname, -, -⟩ := nextName_isFresh merged l.1
    have hnext : LabelName (nextName merged l.1) := hname ▸ hl.exported n
    exact List.forall_mem_append.mpr ⟨h.names, by simpa using hnext⟩
  keyed := keep_nodup h.keyed l

theorem withConstants (h : merged.WellNamed) (hs : ∀ l ∈ scraped, LabelName l.1) :
    (Exposition.withConstants merged scraped).WellNamed := by
  induction scraped generalizing merged with
  | nil => exact h
  | cons l rest ih =>
    obtain ⟨hl, hrest⟩ := List.forall_mem_cons.mp hs
    exact ih (h.keep hl) hrest

end Labels.WellNamed

namespace Exposition

variable {constants : Labels} {line raw text : List Char} {p : SampleParts} {s : Sample}
  {families : List MetricFamily}

theorem SampleText.metricName (h : SampleText line p) :
    NameText isMetricStart isMetricChar p.name := by
  cases h with
  | bare hn => exact hn
  | braced hn => exact hn

theorem SampleText.labelNames (h : SampleText line p) :
    ∀ item ∈ p.labels, NameText isLabelStart isLabelChar item.1 := by
  cases h with
  | bare => exact nofun
  | braced _ _ hl => exact hl.names

theorem readSample_wellNamed (hend : trimEnd line = line) (hc : constants.WellNamed)
    (h : readSample constants line = .ok s) : s.WellNamed := by
  obtain ⟨p, hp, -⟩ := readSample_sound hend h
  obtain ⟨hname, hlabels⟩ := hp.read_eq h
  constructor
  · rw [hname, MetricName, String.toList_ofList]
    exact hp.metricName
  · rw [hlabels]
    refine hc.withConstants (List.forall_mem_map.mpr fun item hitem => ?_)
    rw [label, LabelName, String.toList_ofList]
    exact hp.labelNames item hitem

theorem readSample_of_readLine (h : readLine constants raw = .ok (.sample s)) :
    readSample constants (trim raw) = .ok s := by
  unfold readLine at h
  split at h
  · cases h
  · have hnone := sample?_of_readComment h
    cases hnone
  · cases hs : readSample constants (trim raw) with
    | error e => simp [hs, Except.map] at h
    | ok t =>
      simp only [hs, Except.map, Except.ok.injEq, LineContent.sample.injEq] at h
      rw [h]

/-- A sample in a family was read from one of the lines. -/
theorem exists_line_of_sample (h : (read constants text).result = .ok families)
    {f : MetricFamily} (hf : f ∈ families) (hs : s ∈ f.samples) :
    ∃ raw ∈ lines text, readLine constants raw = .ok (.sample s) := by
  obtain ⟨contents, placed, hread, hplaced, hgrouped, -⟩ := read_grouped h
  rw [hgrouped.samples f hf, samplesOf, List.mem_filterMap] at hs
  obtain ⟨q, hq, hsample⟩ := hs
  have hcontent : LineContent.sample s ∈ contents := by
    have hmem : q.content ∈ placed.map (·.content) :=
      List.mem_map_of_mem (List.mem_filter.mp hq).1
    rw [hplaced] at hmem
    cases hc : q.content with
    | sample t =>
      rw [hc, LineContent.sample?, Option.some.injEq] at hsample
      rw [hc, hsample] at hmem
      exact (List.mem_filter.mp hmem).1
    | _ => simp [hc, LineContent.sample?] at hsample
  have hline : .ok (.sample s) ∈ (lines text).map (readLine constants) := by
    rw [hread]
    exact List.mem_map_of_mem hcontent
  exact List.mem_map.mp hline

theorem read_wellNamed (hc : constants.WellNamed)
    (h : (read constants text).result = .ok families) :
    ∀ f ∈ families, ∀ p ∈ f.samples, p.WellNamed := by
  intro f hf p hp
  obtain ⟨raw, -, hraw⟩ := exists_line_of_sample h hf hp
  have hend : trimEnd (trim raw) = trim raw := trimEnd_eq_self.mpr (stops_trimEnd _)
  exact readSample_wellNamed hend hc (readSample_of_readLine hraw)

theorem Payload.read_wellNamed (hc : constants.WellNamed) (payload : Payload)
    (h : (payload.read constants).result = .ok families) :
    ∀ f ∈ families, ∀ p ∈ f.samples, p.WellNamed := by
  cases payload with
  | text cs => exact Exposition.read_wellNamed hc h
  | bytes bs =>
    rw [Payload.read, readBytes] at h
    cases hd : Utf8.decode bs with
    | error position => simp [hd] at h
    | ok text =>
      rw [hd] at h
      exact Exposition.read_wellNamed hc h

end Exposition

/-- A scrape of a payload that was read under constant labels with proper names. -/
def Scrape.Parsed (s : Scrape) : Prop :=
  ∃ (constants : Labels) (payload : Payload), constants.WellNamed ∧
    (payload.read constants).result = .ok s.families

theorem Scrape.Parsed.wellNamed {s : Scrape} (h : s.Parsed) :
    ∀ f ∈ s.families, ∀ p ∈ f.samples, p.WellNamed := by
  obtain ⟨constants, payload, hc, hread⟩ := h
  exact payload.read_wellNamed hc hread

end MetricArchive
