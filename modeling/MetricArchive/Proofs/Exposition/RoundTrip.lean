import MetricArchive.Proofs.Exposition.Feeding
import MetricArchive.Proofs.Exposition.RenderedLine

/-!
# Reading undoes rendering

Lines go to families by a state, so the lines of one family are read in the state that the lines
before them left: the families that were completed, then the one in use. Main statement: families
with names of their own, rendered and read, are the same families in the same order, each with its
kind, its help text and its samples.
-/
namespace MetricArchive.Exposition

open Text

structure WrittenFamily.Means (f : WrittenFamily) (g : MetricFamily) : Prop where
  name : g.name = f.name
  kind : g.kind = f.kind
  help : g.help = f.help
  samples : List.Forall₂ WrittenSample.Means f.samples g.samples

namespace Assembly

/-- The last family is the one in use, and no other has its name. -/
structure Ends (a : Assembly) (done : List OpenFamily) (f : OpenFamily) : Prop where
  families : a.families = done ++ [f]
  current : a.current = some f.family.name
  fresh : f.family.name ∉ done.map (·.family.name)

variable {a : Assembly} {done : List OpenFamily} {f : OpenFamily} {name : String}

theorem find?_fresh (h : name ∉ a.families.map (·.family.name)) : a.find? name = none := by
  rw [find?, List.find?_eq_none]
  intro g hg he
  exact h (List.mem_map.mpr ⟨g, hg, eq_of_beq he⟩)

theorem Ends.find? (h : a.Ends done f) : a.find? f.family.name = some f := by
  have hdone : done.find? (·.family.name == f.family.name) = none := by
    rw [List.find?_eq_none]
    intro g hg he
    exact h.fresh (List.mem_map.mpr ⟨g, hg, eq_of_beq he⟩)
  simp [Assembly.find?, h.families, List.find?_append, hdone]

theorem update_last (h : name ∉ done.map (·.family.name)) (hf : f.family.name = name)
    (change : OpenFamily → OpenFamily) :
    update (done ++ [f]) name change = done ++ [change f] := by
  have hdone : update done name change = done := by
    have hsame : ∀ g ∈ done, (if g.family.name == name then change g else g) = g := by
      intro g hg
      rw [if_neg]
      exact fun he => h (List.mem_map.mpr ⟨g, hg, eq_of_beq he⟩)
    exact (List.map_congr_left hsame).trans (List.map_id' done)
  unfold update at hdone ⊢
  rw [List.map_append, hdone]
  simp [hf]

/-- A name that no family has gets one at the end. -/
theorem use_fresh (h : name ∉ a.families.map (·.family.name)) {change : OpenFamily → OpenFamily}
    (hc : (change (.new name)).family.name = name) :
    (a.use name change).Ends a.families (change (.new name)) where
  families := by
    have hopen : (a.open name).2 = a.families ++ [.new name] := by
      simp [Assembly.open, find?_fresh h]
    simp [use, hopen, update_last h (rfl : (OpenFamily.new name).family.name = name)]
  current := by rw [hc, use]
  fresh := by rwa [hc]

theorem Ends.use (h : a.Ends done f) {change : OpenFamily → OpenFamily}
    (hc : (change f).family.name = f.family.name) :
    (a.use f.family.name change).Ends done (change f) where
  families := by
    have hopen : (a.open f.family.name).2 = done ++ [f] := by
      simp [Assembly.open, h.find?, h.families]
    simp [Assembly.use, hopen, update_last h.fresh rfl]
  current := by rw [hc, Assembly.use]
  fresh := by
    rw [hc]
    exact h.fresh

theorem Ends.report (h : a.Ends done f) (news : List Event) : (a.report news).Ends done f :=
  ⟨h.families, h.current, h.fresh⟩

theorem add_help_fresh (h : name ∉ a.families.map (·.family.name)) (n : Nat) (text : String) :
    ∃ a', a.add n (.help name text) = .ok a' ∧
      a'.Ends a.families ((OpenFamily.new name).setHelp text) := by
  have hnone : a.hasSamples name = false := by simp [hasSamples, find?_fresh h]
  have hends : (a.use name (·.setHelp text)).Ends a.families _ := use_fresh h rfl
  exact ⟨_, by simp [add, hnone]; rfl, hends.report _⟩

theorem Ends.add_kind (h : a.Ends done f) (hs : f.family.samples = []) (n : Nat)
    (kind : MetricKind) :
    ∃ a', a.add n (.kind f.family.name (some kind.name.toList)) = .ok a' ∧
      a'.Ends done (f.setKind kind) := by
  have hnone : a.hasSamples f.family.name = false := by simp [hasSamples, h.find?, hs]
  have hends : (a.use f.family.name (·.setKind kind)).Ends done _ := h.use rfl
  exact ⟨_, by simp [add, hnone, kind.ofName?_name]; rfl, hends.report _⟩

theorem Ends.add_sample (h : a.Ends done f) (n : Nat) {s : Sample}
    (hs : MetricFamily.fits f.family.name f.family.kind s.name = true) :
    ∃ a', a.add n (.sample s) = .ok a' ∧ a'.Ends done (f.addSample s) := by
  have howner : a.owner s.name = f.family.name := by
    simp [owner, h.current, h.find?, hs]
  refine ⟨_, rfl, ?_⟩
  rw [howner]
  exact h.use rfl

def withSamples (f : OpenFamily) (ps : List Sample) : OpenFamily :=
  { f with family := { f.family with samples := f.family.samples ++ ps } }

theorem withSamples_addSample (f : OpenFamily) (p : Sample) (ps : List Sample) :
    withSamples (f.addSample p) ps = withSamples f (p :: ps) := by
  simp [withSamples, OpenFamily.addSample]

variable {w : WrittenFamily}

theorem fits_of_valid {s : WrittenSample} (hs : s.Valid w) :
    MetricFamily.fits w.name w.kind s.name = true := by
  rcases hs.name with he | ⟨suffix, hm, he⟩
  · simp [MetricFamily.fits, he]
  · simp only [MetricFamily.fits, Bool.or_eq_true, List.any_eq_true, beq_iff_eq]
    exact .inr ⟨suffix, hm, he⟩

theorem Ends.feedAll_samples (hw : w.Valid) {written : List WrittenSample}
    (hs : ∀ s ∈ written, s.Valid w) {ls : List (Nat × List Char)}
    (hl : ls.map (·.2) = written.map sampleLine) (h : a.Ends done f)
    (hname : f.family.name = w.name) (hkind : f.family.kind = w.kind) :
    ∃ a' ps, a.feedAll [] ls = (a', none) ∧ a'.Ends done (withSamples f ps) ∧
      List.Forall₂ WrittenSample.Means written ps := by
  induction written generalizing a f ls with
  | nil =>
    obtain rfl := List.map_eq_nil_iff.mp hl
    exact ⟨a, [], rfl, by simpa [withSamples] using h, .nil⟩
  | cons s written ih =>
    obtain ⟨⟨n, raw⟩, rest, rfl, hraw, hrest⟩ := List.map_eq_cons_iff.mp hl
    simp only at hraw
    subst hraw
    obtain ⟨hvalid, hothers⟩ := List.forall_mem_cons.mp hs
    obtain ⟨p, hread, hmeans⟩ := readLine_sampleLine hw hvalid
    have hfits : MetricFamily.fits f.family.name f.family.kind p.name = true := by
      rw [hname, hkind, hmeans.name]
      exact fits_of_valid hvalid
    obtain ⟨b, hadd, hb⟩ := h.add_sample n hfits
    obtain ⟨c, ps, hfeed, hc, hps⟩ := ih hothers hrest hb hname hkind
    refine ⟨c, p :: ps, ?_, withSamples_addSample f p ps ▸ hc, .cons hmeans hps⟩
    simp [feedAll, feed_ok hread hadd, hfeed]

theorem feedAll_family (hw : w.Valid) (h : w.name ∉ a.families.map (·.family.name))
    {ls : List (Nat × List Char)} (hl : ls.map (·.2) = familyLines w) :
    ∃ a' g, a.feedAll [] ls = (a', none) ∧ a'.Ends a.families g ∧ w.Means g.family := by
  obtain ⟨⟨n, help⟩, rest, rfl, hhelp, hrest⟩ := List.map_eq_cons_iff.mp hl
  obtain ⟨⟨m, kind⟩, ls, rfl, hkind, hls⟩ := List.map_eq_cons_iff.mp hrest
  simp only at hhelp hkind
  subst hhelp hkind
  obtain ⟨b, hb, hbends⟩ := add_help_fresh h n w.help
  obtain ⟨c, hc, hcends⟩ := hbends.add_kind rfl m w.kind
  obtain ⟨d, ps, hd, hdends, hps⟩ := hcends.feedAll_samples hw hw.samples hls rfl rfl
  refine ⟨d, _, ?_, hdends, rfl, rfl, rfl, hps⟩
  simp [feedAll, feed_ok (readLine_helpLine [] hw) hb, feed_ok (readLine_kindLine [] hw) hc, hd]

/-- Families with names that are new are read one after the other. -/
theorem feedAll_families {written : List WrittenFamily} (hw : ∀ w ∈ written, w.Valid)
    (hd : (a.families.map (·.family.name) ++ written.map (·.name)).Nodup)
    {ls : List (Nat × List Char)} (hl : ls.map (·.2) = written.flatMap familyLines) :
    ∃ a' gs, a.feedAll [] ls = (a', none) ∧ a'.finish = a.finish ++ gs ∧
      List.Forall₂ WrittenFamily.Means written gs := by
  induction written generalizing a ls with
  | nil =>
    obtain rfl := List.map_eq_nil_iff.mp hl
    exact ⟨a, [], rfl, by simp, .nil⟩
  | cons w written ih =>
    obtain ⟨hvalid, hothers⟩ := List.forall_mem_cons.mp hw
    obtain ⟨first, rest, rfl, hfirst, hrest⟩ := List.map_eq_append_iff.mp hl
    have hfresh : w.name ∉ a.families.map (·.family.name) := by
      intro hm
      exact (List.nodup_append.mp hd).2.2 _ hm w.name (by simp) rfl
    obtain ⟨b, g, hfeed, hb, hg⟩ := feedAll_family hvalid hfresh hfirst
    have hnames : (b.families.map (·.family.name) ++ written.map (·.name)).Nodup := by
      simpa [hb.families, hg.name] using hd
    obtain ⟨c, gs, hfeeds, hfinish, hgs⟩ := ih hothers hnames hrest
    refine ⟨c, g.family :: gs, ?_, ?_, .cons hg hgs⟩
    · simp only [feedAll_append, hfeed, hfeeds]
    · rw [hfinish]
      simp [finish, hb.families]

end Assembly

theorem render_lines {written : List WrittenFamily} (hw : ∀ w ∈ written, w.Valid) :
    lines (render written) = written.flatMap familyLines := by
  refine lines_flatMap fun l hl => ?_
  obtain ⟨w, hm, hl⟩ := List.mem_flatMap.mp hl
  obtain ⟨hhelp, hkind⟩ := descriptions_inline (hw w hm)
  simp only [familyLines, List.mem_cons, List.mem_map] at hl
  rcases hl with rfl | rfl | ⟨s, hs, rfl⟩
  · exact hhelp
  · exact hkind
  · exact sampleLine_inline (hw w hm) ((hw w hm).samples s hs)

/-- Families that are rendered and read again are the same families. -/
theorem read_render {written : List WrittenFamily} (hw : ∀ w ∈ written, w.Valid)
    (hd : (written.map (·.name)).Nodup) :
    ∃ families, (read [] (render written)).result = .ok families ∧
      List.Forall₂ WrittenFamily.Means written families := by
  have hlines := (numberedLines_lines (render written)).trans (render_lines hw)
  obtain ⟨a, families, hfeed, hfinish, hmeans⟩ :=
    @Assembly.feedAll_families Assembly.empty _ hw (by simpa [Assembly.empty] using hd) _ hlines
  refine ⟨families, ?_, hmeans⟩
  simp only [read, hfeed]
  simpa [Assembly.finish, Assembly.empty] using hfinish

/-- A family with a suffix of its kind, a label that needs escapes and a timestamp. -/
def latencies : WrittenFamily :=
  ⟨"t", .summary, "a\nb", [⟨"t_sum", [("l", "\"\n")], "2", some (-5)⟩, ⟨"t", [], "nan", none⟩]⟩

theorem latencies_valid : latencies.Valid where
  name := .intro (by decide) all_nil
  help := by decide
  helpBreaks := by decide
  samples := by
    simp only [latencies, List.forall_mem_cons]
    refine ⟨?_, ?_, by simp⟩
    · exact {
        name := .inr ⟨"_sum", by decide, rfl⟩
        labelNames := by
          rw [List.forall_mem_singleton]
          exact .intro (by decide) all_nil
        labelsDistinct := by decide
        labelValues := by decide
        value := ⟨_, .decimal .absent (@MantissaText.whole ['2'] (by decide) (by decide)) .absent⟩
        timestamp := by decide }
    · exact {
        name := .inl rfl
        labelNames := by simp
        labelsDistinct := by decide
        labelValues := by simp
        value := ⟨_, @NumberText.nan [] ['n', 'a', 'n'] _ .absent (by decide)⟩
        timestamp := by simp }

theorem read_render_latencies :
    (∀ w ∈ [latencies], w.Valid) ∧ ([latencies].map (·.name)).Nodup ∧
      ∃ families, (read [] (render [latencies])).result = .ok families ∧
        List.Forall₂ WrittenFamily.Means [latencies] families := by
  have hw : ∀ w ∈ [latencies], w.Valid := by simpa using latencies_valid
  exact ⟨hw, by decide, read_render hw (by decide)⟩

end MetricArchive.Exposition
