import MetricArchive.Proofs.Exposition.Breakdown
import MetricArchive.Proofs.Exposition.Placement
import MetricArchive.Proofs.Text.Utf8

/-!
# The first lines of a text

What the first lines of a text say does not depend on the lines after them, but a family is changed
by later lines: it gets more samples, and until it has one its kind and its help text may be given
anew. Main statement: from line to line families only grow in this way, and a text is refused for
its first bad line, whatever follows.
-/
namespace MetricArchive.Exposition

open Text

/-- The families that were read at some point, and those that were read later. -/
structure Precedes (early late : List MetricFamily) : Prop where
  names : early.map (·.name) <+: late.map (·.name)
  distinct : (late.map (·.name)).Nodup
  /-- A family keeps its samples, and from the first one on its kind and its help text. -/
  grown : ∀ f ∈ early, ∃ g ∈ late, g.name = f.name ∧ f.samples <+: g.samples ∧
    (f.samples ≠ [] → g.kind = f.kind ∧ g.help = f.help)

namespace Precedes

variable {early middle late : List MetricFamily}

theorem refl (h : (early.map (·.name)).Nodup) : Precedes early early where
  names := List.prefix_rfl
  distinct := h
  grown f hf := ⟨f, hf, rfl, List.prefix_rfl, fun _ => ⟨rfl, rfl⟩⟩

theorem trans (h : Precedes early middle) (h' : Precedes middle late) : Precedes early late where
  names := h.names.trans h'.names
  distinct := h'.distinct
  grown f hf := by
    obtain ⟨g, hg, hname, hsamples, hsame⟩ := h.grown f hf
    obtain ⟨k, hk, hname', hsamples', hsame'⟩ := h'.grown g hg
    refine ⟨k, hk, hname'.trans hname, hsamples.trans hsamples', fun hne => ?_⟩
    have hmore : g.samples ≠ [] := fun hnil => hne (List.prefix_nil.mp (hnil ▸ hsamples))
    obtain ⟨hkind, hhelp⟩ := hsame hne
    obtain ⟨hkind', hhelp'⟩ := hsame' hmore
    exact ⟨hkind'.trans hkind, hhelp'.trans hhelp⟩

end Precedes

namespace Assembly

variable {a a' : Assembly} {content : LineContent} {placed : List Placement}
  {constants : Labels}

theorem finish_names (a : Assembly) : a.finish.map (·.name) = a.names := List.map_map

/-- A change to one family is harmless if it spares the samples that the family has. -/
theorem use_precedes {name : String} {change : OpenFamily → OpenFamily}
    (hd : (a.use name change).names.Nodup)
    (hname : ∀ f, (change f).family.name = f.family.name)
    (hsamples : ∀ f, f.family.samples <+: (change f).family.samples)
    (hsame : ∀ f ∈ a.families, f.family.name = name → f.family.samples ≠ [] →
      (change f).family.kind = f.family.kind ∧ (change f).family.help = f.family.help) :
    Precedes a.finish (a.use name change).finish where
  names := by
    rw [finish_names, finish_names, use_names hname]
    exact List.prefix_append ..
  distinct := finish_names _ ▸ hd
  grown f hf := by
    obtain ⟨o, ho, rfl⟩ := List.mem_map.mp hf
    refine ⟨_, List.mem_map_of_mem (mem_use_of_mem ho name change), ?_⟩
    split
    · rename_i heq
      exact ⟨hname o, hsamples o, hsame o ho heq⟩
    · exact ⟨rfl, List.prefix_rfl, fun _ => ⟨rfl, rfl⟩⟩

/-- A HELP or TYPE line is refused where the family has a sample, so it changes no such family. -/
theorem Tracks.precedes (h : a.Tracks placed) (e : a.Effect content a') :
    Precedes a.finish a'.finish := by
  have hd := (h.after e).distinct
  cases e with
  | nothing => exact .refl (finish_names a ▸ h.distinct)
  | sample s =>
    exact use_precedes hd (fun _ => rfl) (fun _ => List.prefix_append ..)
      fun _ _ _ _ => ⟨rfl, rfl⟩
  | help news hs =>
    exact use_precedes hd (fun _ => rfl) (fun _ => List.prefix_rfl)
      fun f hf hname hne => absurd (samples_eq_nil h.distinct hs hf hname) hne
  | kind news hs =>
    exact use_precedes hd (fun _ => rfl) (fun _ => List.prefix_rfl)
      fun f hf hname hne => absurd (samples_eq_nil h.distinct hs hf hname) hne

theorem Tracks.precedes_feedAll {ls : List (Nat × List Char)} (h : a.Tracks placed)
    (hfeed : a.feedAll constants ls = (a', none)) : Precedes a.finish a'.finish := by
  have hstart : a.Tracks placed ∧ Precedes a.finish a.finish :=
    ⟨h, .refl (finish_names a ▸ h.distinct)⟩
  obtain ⟨-, -, -, -, -, hend⟩ := @feedAll_induction _ _ _
    (fun b _ placed => b.Tracks placed ∧ Precedes a.finish b.finish) constants [] ls
    (fun hb _ e => ⟨hb.1.after e, hb.2.trans (hb.1.precedes e)⟩) hstart hfeed
  exact hend

end Assembly

section Lines

variable {constants : Labels} {ls ms : List (List Char)} {families : List MetricFamily} {f : Fault}

/-- The first of some lines are read if all are. -/
theorem readLines_append (h : readLines constants (ls ++ ms) = .ok families) :
    ∃ early, readLines constants ls = .ok early ∧ Precedes early families := by
  obtain ⟨a, hfeed, rfl⟩ := readLines_ok_iff.mp h
  rw [numbered_append, Assembly.feedAll_append] at hfeed
  split at hfeed
  · rename_i b hb
    obtain ⟨contents, placed, -, -, htracks⟩ := Assembly.empty_tracks.feedAll hb
    exact ⟨b.finish, readLines_ok_iff.mpr ⟨b, hb, rfl⟩, htracks.precedes_feedAll hfeed⟩
  · cases hfeed

/-- A fault stands in the last of the lines up to its number, and only these lines matter. -/
theorem readLines_fault (h : readLines constants ls = .error (.fault f)) :
    1 ≤ f.line ∧ f.line ≤ ls.length ∧
      (∃ early, readLines constants (ls.take (f.line - 1)) = .ok early) ∧
      ∀ others, others.take f.line = ls.take f.line →
        readLines constants others = .error (.fault f) := by
  obtain ⟨above, raw, below, a, rfl, habove, hline⟩ := readLines_error_iff.mp h
  have hnumber := Assembly.line_of_feed hline
  refine ⟨by omega, by simp [hnumber], ⟨a.finish, ?_⟩, fun others hothers => ?_⟩
  · have htake : (above ++ raw :: below).take (f.line - 1) = above :=
      List.take_left' (by rw [hnumber, Nat.add_sub_cancel])
    rw [htake]
    exact readLines_ok_iff.mpr ⟨a, habove, rfl⟩
  · have htake : (above ++ raw :: below).take f.line = above ++ [raw] := by
      rw [List.append_cons]
      exact List.take_left' (by simp [hnumber])
    rw [htake] at hothers
    have hsplit : others = above ++ raw :: others.drop f.line := by
      rw [List.append_cons, ← hothers, List.take_append_drop]
    exact readLines_error_iff.mpr ⟨above, raw, _, a, hsplit, habove, hline⟩

end Lines

section Payloads

variable {constants : Labels} {f : Fault}

theorem Payload.read_of_text? {p : Payload} {text : List Char} (h : p.text? = some text) :
    p.read constants = Exposition.read constants text := by
  cases p with
  | text cs =>
    cases h
    rfl
  | bytes bs =>
    simp only [Payload.text?, Payload.read, readBytes] at h ⊢
    cases hd : Utf8.decode bs with
    | ok cs =>
      rw [hd] at h
      cases h
      rfl
    | error position => simp [hd, Except.toOption] at h

/-- Line 0 stands for bytes that are the encoding of no text. -/
theorem Payload.line_eq_zero_iff (constants : Labels) (p : Payload) :
    (∃ f, (p.read constants).result = .error (.fault f) ∧ f.line = 0) ↔
      ∃ bs, p = .bytes bs ∧ ¬ bs.toByteArray.IsValidUTF8 := by
  have htext : ∀ {text}, ¬ ∃ f, (Exposition.read constants text).result = .error (.fault f) ∧
      f.line = 0 := by
    rintro text ⟨f, hf, hzero⟩
    rw [read_result] at hf
    exact absurd hzero (Nat.ne_of_gt (readLines_fault hf).1)
  cases p with
  | text cs => exact iff_of_false htext nofun
  | bytes bs =>
    have hdecode := @Utf8.exists_decode_error_iff bs
    cases hd : Utf8.decode bs with
    | ok cs =>
      have hread : Payload.read constants (.bytes bs) = Exposition.read constants cs :=
        read_of_text? (by simp [Payload.text?, hd, Except.toOption])
      rw [hread]
      refine iff_of_false htext ?_
      rintro ⟨_, hbs, hinvalid⟩
      cases hbs
      simp [hd, hinvalid] at hdecode
    | error position =>
      have hinvalid := hdecode.mp ⟨position, hd⟩
      refine iff_of_true ⟨⟨0, .notUtf8 position, ""⟩, ?_, rfl⟩ ⟨bs, rfl, hinvalid⟩
      simp [Payload.read, readBytes, hd]

/-- Line by line families only grow, and the first bad line decides about a refusal and what it
says. -/
theorem read_line_by_line (constants : Labels) (text : List Char) :
    (∀ n, ∃ part, part <+: text ∧ lines part = (lines text).take n) ∧
    (∀ families, (read constants text).result = .ok families →
      ∀ n part, lines part = (lines text).take n →
        ∃ early, (read constants part).result = .ok early ∧ Precedes early families) ∧
    (∀ f, (read constants text).result = .error (.fault f) →
      1 ≤ f.line ∧ f.line ≤ (lines text).length ∧
      (∀ part, lines part = (lines text).take (f.line - 1) →
        ∃ early, (read constants part).result = .ok early) ∧
      ∀ other, (lines other).take f.line = (lines text).take f.line →
        (read constants other).result = .error (.fault f)) ∧
    ∀ p : Payload, (p.text? = some text → p.read constants = read constants text) ∧
      ((∃ f, (p.read constants).result = .error (.fault f) ∧ f.line = 0) ↔
        ∃ bs, p = .bytes bs ∧ ¬ bs.toByteArray.IsValidUTF8) := by
  refine ⟨exists_take_lines text, fun families h n part hpart => ?_, fun f h => ?_,
    fun p => ⟨Payload.read_of_text?, p.line_eq_zero_iff constants⟩⟩
  · rw [read_result, ← List.take_append_drop n (lines text)] at h
    rw [read_result, hpart]
    exact readLines_append h
  · rw [read_result] at h
    obtain ⟨hpos, hle, habove, hothers⟩ := readLines_fault h
    refine ⟨hpos, hle, fun part hpart => ?_, fun other hother => ?_⟩
    · rwa [read_result, hpart]
    · rw [read_result]
      exact hothers _ hother

/-- A second TYPE line is read before the first sample of its family and refused after it. -/
theorem read_line_by_line_late_kind :
    let early := "# TYPE a counter\n# TYPE a gauge\n".toList
    let text := "# TYPE a counter\n# TYPE a gauge\na 1\n# HELP b first\n".toList
    let late := "# TYPE a counter\n# TYPE a gauge\na 1\n# HELP b first\n# TYPE a summary\nc".toList
    let a (samples : List Sample) : MetricFamily := ⟨"a", .gauge, "", samples⟩
    let families := [a [⟨"a", [], .ofDecimal false 1 0, none⟩], ⟨"b", .untyped, "first", []⟩]
    (read [] early).result = .ok [a []] ∧ (read [] text).result = .ok families ∧
      Precedes [a []] families ∧
      (read [] late).result = .error (.fault ⟨5, .afterSamples .type "a", "a"⟩) ∧
      ∀ other, (lines other).take 5 = (lines late).take 5 →
        (read [] other).result = .error (.fault ⟨5, .afterSamples .type "a", "a"⟩) := by
  intro early text late a families
  have hearly : (read [] early).result = .ok [a []] := by decide +kernel
  have htext : (read [] text).result = .ok families := by decide +kernel
  have hlate : (read [] late).result = .error (.fault ⟨5, .afterSamples .type "a", "a"⟩) := by
    decide +kernel
  obtain ⟨-, haccepted, -, -⟩ := read_line_by_line [] text
  obtain ⟨-, -, hrefused, -⟩ := read_line_by_line [] late
  obtain ⟨found, hfound, hprecedes⟩ := haccepted families htext 2 early (by decide +kernel)
  obtain rfl : found = [a []] := Except.ok.inj (hfound.symm.trans hearly)
  obtain ⟨-, -, -, hothers⟩ := hrefused _ hlate
  exact ⟨hearly, htext, hprecedes, hlate, hothers⟩

end Payloads

end MetricArchive.Exposition
