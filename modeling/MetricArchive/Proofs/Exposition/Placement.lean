import Mathlib.Data.List.Nodup
import MetricArchive.Exposition.Payload
import MetricArchive.Proofs.Text.Lines
import MetricArchive.Scrape

/-!
# Where lines go

Lines are put into families through a state, the families so far and the one in use. Beside it runs
a list that says for each line where it went; from it the families can be read off. Main statement:
the families of a payload share its samples out, each sample to one family and in line order, and
stand in the order of the lines that opened them.
-/
namespace MetricArchive.Exposition

open Text

structure Placement where
  content : LineContent
  family : String
  deriving DecidableEq, Repr

namespace LineContent

def sample? : LineContent → Option Sample
  | .sample s => some s
  | _ => none

def described? : LineContent → Option String
  | .help metric _ | .kind metric _ => some metric
  | _ => none

def metric? : LineContent → Option String
  | .nothing => none
  | .help metric _ | .kind metric _ => some metric
  | .sample s => some s.name

def helpFor? (name : String) : LineContent → Option String
  | .help metric text => if metric = name then some text else none
  | _ => none

end LineContent

def samplesOf (placed : List Placement) : List Sample := placed.filterMap (·.content.sample?)

def placedIn (placed : List Placement) (name : String) : List Placement :=
  placed.filter (·.family == name)

def helpOf (placed : List Placement) (name : String) : String :=
  ((placed.filterMap (·.content.helpFor? name)).getLast?).getD ""

def sampleLines (text : List Char) : List (List Char) :=
  ((lines text).map trim).filter fun line => !line.isEmpty && line.head? != some '#'

namespace Assembly

def names (a : Assembly) : List String := a.families.map (·.family.name)

def placement (a : Assembly) : LineContent → List Placement
  | .nothing => []
  | .sample s => [⟨.sample s, a.owner s.name⟩]
  | .help metric text => [⟨.help metric text, metric⟩]
  | .kind metric word => [⟨.kind metric word, metric⟩]

inductive Effect (a : Assembly) : LineContent → Assembly → Prop where
  | nothing : Effect a .nothing a
  | sample (s : Sample) : Effect a (.sample s) (a.use (a.owner s.name) (·.addSample s))
  | help {metric text : String} (news : List Event) : a.hasSamples metric = false →
    Effect a (.help metric text) ((a.use metric (·.setHelp text)).report news)
  | kind {metric : String} {word : List Char} {kind : MetricKind} (news : List Event) :
    a.hasSamples metric = false → MetricKind.ofName? (String.ofList word) = some kind →
    Effect a (.kind metric (some word)) ((a.use metric (·.setKind kind)).report news)

variable {a a' : Assembly} {content : LineContent} {name : String} {n : Nat}

theorem add_effect (h : a.add n content = .ok a') : a.Effect content a' := by
  unfold add at h
  split at h
  · cases h
    exact .nothing
  · cases h
    exact .sample _
  · split at h
    · cases h
    · rename_i hs
      cases h
      exact .help _ (by simpa using hs)
  · split at h
    · cases h
    · rename_i hs
      split at h
      · cases h
      · split at h
        · cases h
        · cases h
          exact .kind _ (by simpa using hs) ‹_›

theorem placement_content (a : Assembly) (content : LineContent) :
    (a.placement content).map (·.content) = [content].filter (· != .nothing) := by
  cases content <;> rfl

theorem find?_eq_none : a.find? name = none ↔ name ∉ a.names := by
  simp [find?, names, List.find?_eq_none]

theorem name_of_find? {f : OpenFamily} (h : a.find? name = some f) :
    f ∈ a.families ∧ f.family.name = name := by
  have hname := List.find?_some h
  exact ⟨List.mem_of_find?_eq_some h, by simpa using hname⟩

/-- Where names are distinct, a family is found by its name. -/
theorem find?_of_mem (hd : a.names.Nodup) {f : OpenFamily} (hf : f ∈ a.families) :
    a.find? f.family.name = some f := by
  cases hfind : a.find? f.family.name with
  | none => exact absurd (List.mem_map_of_mem hf) (find?_eq_none.mp hfind)
  | some g =>
    obtain ⟨hg, hname⟩ := name_of_find? hfind
    rw [List.inj_on_of_nodup_map hd hg hf hname]

theorem samples_eq_nil (hd : a.names.Nodup) (h : a.hasSamples name = false) {f : OpenFamily}
    (hf : f ∈ a.families) (hname : f.family.name = name) : f.family.samples = [] := by
  subst hname
  simpa [hasSamples, find?_of_mem hd hf] using h

theorem open_families (a : Assembly) (name : String) :
    (a.open name).2 = a.families ++ if name ∈ a.names then [] else [.new name] := by
  unfold Assembly.open
  cases hf : a.find? name with
  | none => simp [find?_eq_none.mp hf]
  | some f =>
    obtain ⟨hm, hname⟩ := name_of_find? hf
    have hin : name ∈ a.names := hname ▸ List.mem_map_of_mem hm
    simp [hin]

theorem use_names {change : OpenFamily → OpenFamily}
    (hc : ∀ f, (change f).family.name = f.family.name) :
    (a.use name change).names = a.names ++ if name ∈ a.names then [] else [name] := by
  have hsame : ∀ families, (update families name change).map (·.family.name) =
      families.map (·.family.name) := by
    intro families
    simp only [update, List.map_map]
    refine List.map_congr_left fun f _ => ?_
    simp only [Function.comp_apply]
    split
    · exact hc f
    · rfl
  have hopen : (a.open name).2.map (·.family.name) =
      a.names ++ if name ∈ a.names then [] else [name] := by
    rw [open_families, List.map_append]
    split
    · rfl
    · rfl
  exact (hsame _).trans hopen

/-- A family after a change is one from before or a new one, changed or not. -/
theorem mem_use {change : OpenFamily → OpenFamily} {f : OpenFamily}
    (h : f ∈ (a.use name change).families) :
    ∃ g, (g ∈ a.families ∨ g = .new name ∧ name ∉ a.names) ∧
      f = if g.family.name = name then change g else g := by
  simp only [use, update, List.mem_map] at h
  obtain ⟨g, hg, rfl⟩ := h
  refine ⟨g, ?_, by simp⟩
  rw [open_families, List.mem_append] at hg
  rcases hg with hg | hg
  · exact .inl hg
  · split at hg
    · cases hg
    · exact .inr ⟨List.mem_singleton.mp hg, ‹_›⟩

/-- A family from before is still there, changed or not. -/
theorem mem_use_of_mem {f : OpenFamily} (hf : f ∈ a.families) (name : String)
    (change : OpenFamily → OpenFamily) :
    (if f.family.name = name then change f else f) ∈ (a.use name change).families := by
  have hopen : f ∈ (a.open name).2 := by
    rw [open_families]
    exact List.mem_append_left _ hf
  refine List.mem_map.mpr ⟨f, hopen, ?_⟩
  simp

/-- A sample that goes to no family before it opens the one of its own name. -/
theorem owner_of_not_mem {sample : String} (h : a.owner sample ∉ a.names) :
    a.owner sample = sample := by
  unfold owner at h ⊢
  cases hf : a.current.bind a.find? with
  | none => rfl
  | some f =>
    rw [hf] at h
    simp only at h ⊢
    split
    · rename_i hfits
      rw [if_pos hfits] at h
      obtain ⟨current, -, hfind⟩ := Option.bind_eq_some_iff.mp hf
      exact absurd (List.mem_map_of_mem (name_of_find? hfind).1) h
    · rfl

/-- The families so far can be read off from where the lines went. -/
structure Tracks (a : Assembly) (placed : List Placement) : Prop where
  distinct : a.names.Nodup
  order : a.names = (placed.map (·.family)).eraseDups
  described : ∀ p ∈ placed, ∀ metric ∈ p.content.described?, p.family = metric
  opened : ∀ name p, placed.find? (·.family == name) = some p → p.content.metric? = some name
  samples : ∀ f ∈ a.families, f.family.samples = samplesOf (placedIn placed f.family.name)
  help : ∀ f ∈ a.families, f.family.help = helpOf placed f.family.name

theorem placedIn_append (placed more : List Placement) (name : String) :
    placedIn (placed ++ more) name = placedIn placed name ++ placedIn more name :=
  List.filter_append ..

theorem samplesOf_append (placed more : List Placement) :
    samplesOf (placed ++ more) = samplesOf placed ++ samplesOf more :=
  List.filterMap_append

theorem helpOf_append (placed : List Placement) (p : Placement) (name : String) :
    helpOf (placed ++ [p]) name = (p.content.helpFor? name).getD (helpOf placed name) := by
  unfold helpOf
  rw [List.filterMap_append]
  cases hp : p.content.helpFor? name <;> simp [hp]

/-- The samples of a family when one more line has gone somewhere. -/
theorem samplesOf_placedIn_append (placed : List Placement) (p : Placement) (name : String) :
    samplesOf (placedIn (placed ++ [p]) name) =
      samplesOf (placedIn placed name) ++
        if p.family = name then p.content.sample?.toList else [] := by
  rw [placedIn_append, samplesOf_append]
  congr 1
  by_cases hp : p.family = name
  · cases hs : p.content.sample? <;> simp [placedIn, samplesOf, hp, hs]
  · simp [placedIn, samplesOf, hp]

theorem helpFor?_eq_some {text : String} :
    content.helpFor? name = some text ↔ content = .help name text := by
  cases content <;> simp [LineContent.helpFor?]

theorem described?_of_helpFor? {text : String} (h : content.helpFor? name = some text) :
    content.described? = some name := by
  rw [helpFor?_eq_some.mp h]
  rfl

variable {placed : List Placement} {p : Placement}

theorem empty_tracks : empty.Tracks [] where
  distinct := .nil
  order := rfl
  described := nofun
  opened := nofun
  samples := nofun
  help := nofun

namespace Tracks

theorem mem_names (h : a.Tracks placed) : name ∈ a.names ↔ name ∈ placed.map (·.family) := by
  rw [h.order, List.mem_eraseDups]

theorem placedIn_eq_nil (h : a.Tracks placed) (hn : name ∉ a.names) :
    placedIn placed name = [] := by
  rw [h.mem_names] at hn
  simpa [placedIn, List.filter_eq_nil_iff] using hn

theorem helpOf_eq_empty (h : a.Tracks placed) (hn : name ∉ a.names) : helpOf placed name = "" := by
  have hnone : placed.filterMap (·.content.helpFor? name) = [] := by
    rw [List.filterMap_eq_nil_iff]
    intro p hp
    by_contra hsome
    obtain ⟨text, htext⟩ := Option.ne_none_iff_exists'.mp hsome
    have hfamily := h.described p hp name (described?_of_helpFor? htext)
    exact hn (h.mem_names.mpr (hfamily ▸ List.mem_map_of_mem hp))
  simp [helpOf, hnone]

/-- A line goes to a family that is there, or opens it. -/
theorem use (h : a.Tracks placed) {change : OpenFamily → OpenFamily}
    (hname : ∀ f, (change f).family.name = f.family.name)
    (hsamples : ∀ f, (change f).family.samples = f.family.samples ++ p.content.sample?.toList)
    (hhelp : ∀ f, (change f).family.help = (p.content.helpFor? p.family).getD f.family.help)
    (hdescribed : ∀ metric ∈ p.content.described?, p.family = metric)
    (hopened : p.family ∉ a.names → p.content.metric? = some p.family) :
    (a.use p.family change).Tracks (placed ++ [p]) := by
  -- what a family holds before the change, also one that is opened only now
  have hbefore : ∀ g, (g ∈ a.families ∨ g = .new p.family ∧ p.family ∉ a.names) →
      g.family.samples = samplesOf (placedIn placed g.family.name) ∧
        g.family.help = helpOf placed g.family.name := by
    rintro g (hg | ⟨rfl, hnew⟩)
    · exact ⟨h.samples g hg, h.help g hg⟩
    · have hnone := h.placedIn_eq_nil hnew
      exact ⟨by simp [OpenFamily.new, hnone, samplesOf], (h.helpOf_eq_empty hnew).symm⟩
  refine {
    distinct := ?_
    order := ?_
    described := ?_
    opened := ?_
    samples := ?_
    help := ?_ }
  · rw [use_names hname]
    split
    · simpa using h.distinct
    · rename_i hnew
      rw [List.nodup_append]
      refine ⟨h.distinct, by simp, ?_⟩
      rintro n hn m hm rfl
      exact hnew (List.mem_singleton.mp hm ▸ hn)
  · rw [use_names hname, List.map_append, List.eraseDups_append, ← h.order, List.map_singleton,
      List.removeAll, List.filter_singleton]
    by_cases hin : p.family ∈ a.names
    · have hplaced := h.mem_names.mp hin
      simp [hin, hplaced]
    · have hplaced := h.mem_names.not.mp hin
      simp [hin, hplaced, List.eraseDups_cons]
  · intro q hq
    rcases List.mem_append.mp hq with hq | hq
    · exact h.described q hq
    · rw [List.mem_singleton.mp hq]
      exact hdescribed
  · intro name q hq
    rw [List.find?_append, Option.or_eq_some_iff] at hq
    rcases hq with hq | ⟨hnone, hq⟩
    · exact h.opened name q hq
    · obtain ⟨hfamily, rfl⟩ : p.family = name ∧ p = q := by simpa using hq
      refine hfamily ▸ hopened fun hin => ?_
      obtain ⟨r, hr, hrname⟩ := List.mem_map.mp (h.mem_names.mp hin)
      have hother := List.find?_eq_none.mp hnone r hr
      simp [hrname, hfamily] at hother
  · intro f hf
    obtain ⟨g, hg, rfl⟩ := mem_use hf
    obtain ⟨hgsamples, -⟩ := hbefore g hg
    rw [samplesOf_placedIn_append]
    split
    · rename_i heq
      rw [hname, hsamples, hgsamples, if_pos heq.symm]
    · rename_i hne
      rw [hgsamples, if_neg (Ne.symm hne), List.append_nil]
  · intro f hf
    obtain ⟨g, hg, rfl⟩ := mem_use hf
    obtain ⟨-, hghelp⟩ := hbefore g hg
    rw [helpOf_append]
    split
    · rename_i heq
      rw [hname, hhelp, hghelp, heq]
    · rename_i hne
      have hnone : p.content.helpFor? g.family.name = none := by
        by_contra hsome
        obtain ⟨text, htext⟩ := Option.ne_none_iff_exists'.mp hsome
        exact hne (hdescribed _ (described?_of_helpFor? htext)).symm
      rw [hghelp, hnone, Option.getD_none]

theorem report (h : a.Tracks placed) (news : List Event) : (a.report news).Tracks placed :=
  { h with }

/-- A line that says something goes to one family, and the others stay as they are. -/
theorem after (h : a.Tracks placed) (e : a.Effect content a') :
    a'.Tracks (placed ++ a.placement content) := by
  cases e with
  | nothing => simpa [placement] using h
  | sample s =>
    refine @use _ _ ⟨.sample s, a.owner s.name⟩ h (·.addSample s) (fun _ => rfl) (fun _ => rfl)
      (fun _ => rfl) nofun fun hnew => ?_
    exact congrArg some (owner_of_not_mem hnew).symm
  | @help metric text news =>
    refine .report ?_ news
    refine @use _ _ ⟨.help metric text, metric⟩ h (·.setHelp text) (fun _ => rfl) (fun f => ?_)
      (fun f => ?_) (fun _ hm => Option.some.inj hm) fun _ => rfl
    · exact (List.append_nil _).symm
    · simp [OpenFamily.setHelp, LineContent.helpFor?]
  | @kind metric word kind news =>
    refine .report ?_ news
    refine @use _ _ ⟨.kind metric (some word), metric⟩ h (·.setKind kind) (fun _ => rfl)
      (fun f => ?_) (fun _ => rfl) (fun _ hm => Option.some.inj hm) fun _ => rfl
    exact (List.append_nil _).symm

end Tracks

theorem feed_eq_ok {constants : Labels} {raw : List Char} (h : a.feed constants n raw = .ok a') :
    ∃ content, readLine constants raw = .ok content ∧ a.Effect content a' := by
  unfold feed at h
  split at h
  · rename_i b hb
    cases h
    cases hread : readLine constants raw with
    | error e => simp [hread, Except.bind] at hb
    | ok content =>
      rw [hread] at hb
      exact ⟨content, rfl, add_effect hb⟩
  · cases h

/-- What holds of the families, of the lines read and of where they went holds to the end if each
line that is accepted keeps it. -/
theorem feedAll_induction {I : Assembly → List (List Char) → List Placement → Prop}
    {constants : Labels} {raws : List (List Char)} {ls : List (Nat × List Char)}
    (hstep : ∀ {a a' raws placed raw content}, I a raws placed →
      readLine constants raw = .ok content → a.Effect content a' →
      I a' (raws ++ [raw]) (placed ++ a.placement content))
    (h : I a raws placed) (hfeed : a.feedAll constants ls = (a', none)) :
    ∃ (contents : List LineContent) (more : List Placement),
      (ls.map (·.2)).map (readLine constants) = contents.map .ok ∧
      more.map (·.content) = contents.filter (· != .nothing) ∧
      I a' (raws ++ ls.map (·.2)) (placed ++ more) := by
  induction ls generalizing a raws placed with
  | nil =>
    cases hfeed
    exact ⟨[], [], rfl, rfl, by simpa using h⟩
  | cons l rest ih =>
    obtain ⟨n, raw⟩ := l
    simp only [Assembly.feedAll] at hfeed
    split at hfeed
    · obtain ⟨content, hread, heffect⟩ := feed_eq_ok ‹_›
      obtain ⟨contents, more, hall, hmore, hend⟩ := ih (hstep h hread heffect) hfeed
      refine ⟨content :: contents, a.placement content ++ more, by simp [hread, hall], ?_, ?_⟩
      · rw [List.map_append, placement_content, hmore, ← List.filter_append]
        rfl
      · simpa using hend
    · cases hfeed

theorem Tracks.feedAll {constants : Labels} {ls : List (Nat × List Char)} (h : a.Tracks placed)
    (hfeed : a.feedAll constants ls = (a', none)) :
    ∃ (contents : List LineContent) (more : List Placement),
      (ls.map (·.2)).map (readLine constants) = contents.map .ok ∧
      more.map (·.content) = contents.filter (· != .nothing) ∧ a'.Tracks (placed ++ more) :=
  @feedAll_induction _ _ _ (fun a _ placed => a.Tracks placed) constants [] ls
    (fun h _ e => h.after e) h hfeed

end Assembly

section Samples

variable {constants : Labels} {placed : List Placement}

theorem sample?_of_readComment {line body : List Char} {content : LineContent}
    (h : readComment line body = .ok content) : content.sample? = none := by
  unfold readComment at h
  simp only at h
  split at h
  · cases h
    rfl
  · rename_i keyword _
    split at h
    · cases h
    · split at h
      · cases h
        cases keyword <;> rfl
      · cases h

/-- The samples of the lines are what is read from the lines that are neither blank nor comments. -/
theorem sampleLines_read {raws : List (List Char)} {contents : List LineContent}
    (h : raws.map (readLine constants) = contents.map .ok) :
    (((raws.map trim).filter fun line => !line.isEmpty && line.head? != some '#').map
      (readSample constants)) = (contents.filterMap (·.sample?)).map .ok := by
  induction raws generalizing contents with
  | nil =>
    obtain rfl : contents = [] := by simpa using h.symm
    rfl
  | cons raw raws ih =>
    obtain ⟨content, contents, rfl, hread, hrest⟩ := List.map_eq_cons_iff.mp h.symm
    have hothers := ih hrest.symm
    have hline := hread.symm
    rw [List.map_cons, List.filter_cons]
    unfold readLine at hline
    split at hline
    · rename_i htrim
      cases hline
      simpa [htrim, LineContent.sample?] using hothers
    · rename_i body htrim
      have hnone := sample?_of_readComment hline
      simpa [htrim, hnone] using hothers
    · rename_i hblank hcomment
      cases hs : readSample constants (trim raw) with
      | error e => simp [hs, Except.map] at hline
      | ok s =>
        simp only [hs, Except.map, Except.ok.injEq] at hline
        subst hline
        have hkeep : (!(trim raw).isEmpty && (trim raw).head? != some '#') = true := by
          cases htrim : trim raw with
          | nil => exact absurd htrim hblank
          | cons c body =>
            have hc : c ≠ '#' := fun hc => hcomment body (hc ▸ htrim)
            simpa using hc
        simp [hkeep, hs, LineContent.sample?, hothers]

theorem samplesOf_eq (placed : List Placement) :
    samplesOf placed = (placed.map (·.content)).filterMap (·.sample?) := by
  rw [List.filterMap_map]
  rfl

theorem filterMap_sample?_filter (contents : List LineContent) :
    (contents.filter (· != .nothing)).filterMap (·.sample?) = contents.filterMap (·.sample?) := by
  rw [List.filterMap_filter]
  refine List.filterMap_congr fun content _ => ?_
  cases content <;> rfl

/-- Where every line goes to one of some families, the families have all lines between them. -/
theorem flatMap_placedIn_perm {names : List String} (hd : names.Nodup)
    (hall : ∀ p ∈ placed, p.family ∈ names) : (names.flatMap (placedIn placed)).Perm placed := by
  induction names generalizing placed with
  | nil =>
    obtain rfl : placed = [] :=
      List.eq_nil_iff_forall_not_mem.mpr fun p hp => by simpa using hall p hp
    exact .nil
  | cons name names ih =>
    obtain ⟨hnew, hnames⟩ := List.nodup_cons.mp hd
    -- the lines of the other families, looked for among the lines that remain
    have hothers : ∀ other ∈ names,
        placedIn placed other = placedIn (placed.filter (!·.family == name)) other := by
      intro other ho
      rw [placedIn, placedIn, List.filter_filter]
      refine List.filter_congr fun p _ => ?_
      by_cases hp : p.family = other
      · have hne : other ≠ name := fun heq => hnew (heq ▸ ho)
        simp [hp, hne]
      · simp [hp]
    have hrest := @ih (placed.filter (!·.family == name)) hnames (fun p hp => by
      obtain ⟨hp, hne⟩ := List.mem_filter.mp hp
      simpa [show p.family ≠ name by simpa using hne] using hall p hp)
    rw [List.flatMap_cons, List.flatMap_congr hothers]
    exact (hrest.append_left _).trans (List.filter_append_perm _ placed)

end Samples

/-- The lines that say something went to these families, each line to one. -/
structure Grouped (placed : List Placement) (families : List MetricFamily) : Prop where
  /-- A HELP or TYPE line goes to the family that it names. -/
  described : ∀ p ∈ placed, ∀ metric ∈ p.content.described?, p.family = metric
  /-- The first line of a family begins with its name. -/
  opened : ∀ name p, placed.find? (·.family == name) = some p → p.content.metric? = some name
  distinct : (families.map (·.name)).Nodup
  order : families.map (·.name) = (placed.map (·.family)).eraseDups
  samples : ∀ f ∈ families, f.samples = samplesOf (placedIn placed f.name)

section Payloads

variable {constants : Labels} {text : List Char} {families : List MetricFamily}
  {placed : List Placement}

theorem Assembly.Tracks.grouped {a : Assembly} (h : a.Tracks placed) :
    Grouped placed a.finish where
  described := h.described
  opened := h.opened
  distinct := by simpa [finish, names, Function.comp_def] using h.distinct
  order := by simpa [finish, names, Function.comp_def] using h.order
  samples := by simpa [finish] using h.samples

theorem read_grouped (h : (read constants text).result = .ok families) :
    ∃ (contents : List LineContent) (placed : List Placement),
      (lines text).map (readLine constants) = contents.map .ok ∧
      placed.map (·.content) = contents.filter (· != .nothing) ∧ Grouped placed families ∧
      ∀ f ∈ families, f.help = helpOf placed f.name := by
  unfold read at h
  split at h
  · rename_i a hfeed
    cases h
    obtain ⟨contents, placed, hread, hplaced, htracks⟩ := Assembly.empty_tracks.feedAll hfeed
    rw [numberedLines_lines] at hread
    exact ⟨contents, placed, hread, hplaced, htracks.grouped, by
      simpa [Assembly.finish] using htracks.help⟩
  · cases h

theorem Grouped.samples_perm (h : Grouped placed families) :
    (families.flatMap (·.samples)).Perm (samplesOf placed) := by
  have hall : ∀ p ∈ placed, p.family ∈ families.map (·.name) := fun p hp => by
    rw [h.order, List.mem_eraseDups]
    exact List.mem_map_of_mem hp
  have hlines := flatMap_placedIn_perm h.distinct hall
  have hsamples : families.flatMap (·.samples) =
      samplesOf ((families.map (·.name)).flatMap (placedIn placed)) := by
    rw [List.flatMap_congr h.samples, List.flatMap_map]
    simp [samplesOf, List.filterMap_flatMap]
  rw [hsamples]
  exact hlines.filterMap _

/-- The families of a payload share the samples of its lines out, each sample to one family and in
the order of the lines, and are in the order of the lines that opened them. -/
theorem read_partition (h : (read constants text).result = .ok families) :
    ∃ (contents : List LineContent) (placed : List Placement),
      (lines text).map (readLine constants) = contents.map .ok ∧
      placed.map (·.content) = contents.filter (· != .nothing) ∧ Grouped placed families ∧
      (sampleLines text).map (readSample constants) = (samplesOf placed).map .ok ∧
      (families.flatMap (·.samples)).Perm (samplesOf placed) ∧
      (∀ f ∈ families, f.samples.Sublist (samplesOf placed)) ∧
      ∀ s : Scrape, s.families = families → s.sampleCount = (sampleLines text).length := by
  obtain ⟨contents, placed, hread, hplaced, hgrouped, -⟩ := read_grouped h
  have hsamples : (sampleLines text).map (readSample constants) = (samplesOf placed).map .ok := by
    rw [sampleLines, sampleLines_read hread, samplesOf_eq, hplaced, filterMap_sample?_filter]
  have hperm := hgrouped.samples_perm
  refine ⟨contents, placed, hread, hplaced, hgrouped, hsamples, hperm, fun f hf => ?_, ?_⟩
  · rw [hgrouped.samples f hf]
    exact List.filter_sublist.filterMap _
  · rintro s rfl
    have hlength := congrArg List.length hsamples
    rw [List.length_map, List.length_map] at hlength
    rw [Scrape.sampleCount, hperm.length_eq, hlength]

/-- A family that is taken up again has the samples from before and after. -/
theorem read_partition_taken_up :
    let text := "h_sum 1\ng 2\n# TYPE h summary\nh_sum 3\nh 4\ng 5\n".toList
    let sample (name : String) (n : Nat) : Sample := ⟨name, [], .ofDecimal false n 0, none⟩
    let families : List MetricFamily :=
      [⟨"h_sum", .untyped, "", [sample "h_sum" 1]⟩,
        ⟨"g", .untyped, "", [sample "g" 2, sample "g" 5]⟩,
        ⟨"h", .summary, "", [sample "h_sum" 3, sample "h" 4]⟩]
    (read [] text).result = .ok families ∧ ∃ placed, Grouped placed families ∧
      (sampleLines text).map (readSample []) = (samplesOf placed).map .ok := by
  intro text sample families
  have hread : (read [] text).result = .ok families := by decide +kernel
  obtain ⟨-, placed, -, -, hgrouped, hsamples, -⟩ := read_partition hread
  exact ⟨hread, placed, hgrouped, hsamples⟩

end Payloads

end MetricArchive.Exposition
