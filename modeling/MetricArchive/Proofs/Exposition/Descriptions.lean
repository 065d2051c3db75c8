import MetricArchive.Proofs.Exposition.DescriptionGrammar
import MetricArchive.Proofs.Exposition.Feeding
import MetricArchive.Proofs.Exposition.Placement

/-!
# What is said of a family

A family may be described more than once, the last time counts, and its kind decides by their names
which samples it takes. The kind is looked at when a sample arrives, so it must not change after
that. Main statement: families are described as the last HELP and TYPE lines say, no such line comes
after a sample of its family, and so each sample fits the family that it is in.
-/
namespace MetricArchive.Exposition

open Text

def NamedAfter (f : MetricFamily) (sample : String) : Prop :=
  sample = f.name ∨
    (f.kind = .histogram ∧ (sample = f.name ++ "_bucket" ∨ sample = f.name ++ "_sum" ∨
      sample = f.name ++ "_count")) ∨
    (f.kind = .summary ∧ (sample = f.name ++ "_sum" ∨ sample = f.name ++ "_count"))

def Describes (keyword : Keyword) (raw : List Char) (metric : String) (text : List Char) : Prop :=
  DescriptionText keyword (trim raw) metric.toList text

/-- The text of the last line that describes a metric, if there is one. -/
inductive LastDescription (keyword : Keyword) (metric : String) :
    List (List Char) → Option (List Char) → Prop where
  | none {raws : List (List Char)} (h : ∀ raw ∈ raws, ∀ text, ¬ Describes keyword raw metric text) :
    LastDescription keyword metric raws none
  | some {above below : List (List Char)} {raw text : List Char}
    (h : Describes keyword raw metric text)
    (hb : ∀ later ∈ below, ∀ other, ¬ Describes keyword later metric other) :
    LastDescription keyword metric (above ++ raw :: below) (some text)

section Descriptions

variable {keyword keyword' : Keyword} {metric metric' : String} {raw text : List Char}
  {raws : List (List Char)} {said : Option (List Char)} {constants : Labels}

theorem fits_iff {f : MetricFamily} {sample : String} :
    MetricFamily.fits f.name f.kind sample = true ↔ NamedAfter f sample := by
  unfold MetricFamily.fits NamedAfter
  cases hkind : f.kind
  all_goals simp [MetricKind.suffixes]

theorem name_of_ofName? {word : String} {kind : MetricKind}
    (h : MetricKind.ofName? word = some kind) : kind.name = word := by
  unfold MetricKind.ofName? at h
  simpa using List.find?_some h

theorem describe_described? (keyword : Keyword) (metric : String) (text : List Char) :
    (describe keyword metric.toList text).described? = some metric := by
  cases keyword <;> simp [describe, LineContent.described?]

theorem Describes.unique {text' : List Char} (h : Describes keyword raw metric text)
    (h' : Describes keyword' raw metric' text') :
    keyword = keyword' ∧ metric = metric' ∧ text = text' := by
  obtain ⟨hkeyword, hmetric, htext⟩ := DescriptionText.unique h h'
  exact ⟨hkeyword, String.toList_inj.mp hmetric, htext⟩

/-- A line that says nothing and a sample line describe no metric. -/
theorem not_describes {content : LineContent} (h : readLine constants raw = .ok content)
    (hnone : content = .nothing ∨ ∃ s, content = .sample s) :
    ∀ keyword metric text, ¬ Describes keyword raw metric text := by
  intro keyword metric text hd
  have hread := DescriptionText.readLine hd constants
  rw [h] at hread
  rcases hnone with rfl | ⟨s, rfl⟩
  · cases keyword <;> cases hread
  · cases keyword <;> cases hread

theorem describes_help {help : String} (h : readLine constants raw = .ok (.help metric help)) :
    ∃ text, Describes .help raw metric text ∧ help.toList = unescapeHelp text := by
  obtain ⟨keyword, name, text, htext, hcontent⟩ :=
    (readLine_description_iff constants).mp ⟨h, nofun, nofun⟩
  cases keyword with
  | type => cases hcontent
  | help =>
    cases hcontent
    exact ⟨text, by rwa [Describes, String.toList_ofList], String.toList_ofList⟩

theorem describes_kind {word : List Char}
    (h : readLine constants raw = .ok (.kind metric (some word))) :
    Describes .type raw metric word := by
  obtain ⟨keyword, name, text, htext, hcontent⟩ :=
    (readLine_description_iff constants).mp ⟨h, nofun, nofun⟩
  cases keyword with
  | help => cases hcontent
  | type =>
    simp only [describe, LineContent.kind.injEq] at hcontent
    obtain ⟨rfl, hword⟩ := hcontent
    split at hword
    · cases hword
    · obtain rfl := Option.some.inj hword
      rwa [Describes, String.toList_ofList, htext.trim_text]

namespace LastDescription

/-- Behind a last line there is no other that describes the metric. -/
theorem head_eq {below between below' : List (List Char)} {raw' : List Char}
    (hbelow : ∀ later ∈ below, ∀ other, ¬ Describes keyword later metric other)
    (h : Describes keyword raw' metric text) (hsplit : raw :: below = between ++ raw' :: below') :
    raw = raw' := by
  cases between with
  | nil => exact (List.cons.inj hsplit).1
  | cons line between =>
    obtain ⟨-, rfl⟩ := List.cons.inj hsplit
    exact absurd h (hbelow raw' (by simp) text)

theorem unique {said' : Option (List Char)} (h : LastDescription keyword metric raws said)
    (h' : LastDescription keyword metric raws said') : said = said' := by
  cases h with
  | none hnone =>
    cases h' with
    | none => rfl
    | some hlast => exact absurd hlast (hnone _ (by simp) _)
  | @some above below raw text hlast hbelow =>
    generalize hlines : above ++ raw :: below = raws at h'
    cases h' with
    | none hnone => exact absurd hlast (hnone raw (by simp [← hlines]) text)
    | @some above' below' raw' text' hlast' hbelow' =>
      have hsame : raw = raw' := by
        rcases List.append_eq_append_iff.mp hlines with ⟨_, -, hsplit⟩ | ⟨_, -, hsplit⟩
        · exact head_eq hbelow hlast' hsplit
        · exact (head_eq hbelow' hlast hsplit).symm
      subst hsame
      rw [(hlast.unique hlast').2.2]

theorem iff_eq (h : LastDescription keyword metric raws said) (t : Option (List Char)) :
    LastDescription keyword metric raws t ↔ t = said :=
  ⟨fun ht => ht.unique h, fun ht => ht ▸ h⟩

/-- A line about something else changes nothing. -/
theorem skip (h : LastDescription keyword metric raws said)
    (hraw : ∀ text, ¬ Describes keyword raw metric text) :
    LastDescription keyword metric (raws ++ [raw]) said := by
  cases h with
  | none h =>
    refine .none fun line hline => ?_
    rcases List.mem_append.mp hline with hline | hline
    · exact h line hline
    · exact List.mem_singleton.mp hline ▸ hraw
  | @some above below line text h hb =>
    rw [List.append_assoc, List.cons_append]
    refine .some h fun later hlater => ?_
    rcases List.mem_append.mp hlater with hlater | hlater
    · exact hb later hlater
    · exact List.mem_singleton.mp hlater ▸ hraw

theorem last (raws : List (List Char)) (h : Describes keyword raw metric text) :
    LastDescription keyword metric (raws ++ [raw]) (Option.some text) :=
  .some h nofun

end LastDescription

end Descriptions

/-- A family is as the lines so far say. -/
structure Told (raws : List (List Char)) (f : MetricFamily) : Prop where
  samples : ∀ s ∈ f.samples, NamedAfter f s.name
  kind : ∃ said, LastDescription .type f.name raws said ∧
    said.elim (f.kind = .untyped) (· = f.kind.name.toList)
  help : ∃ said, LastDescription .help f.name raws said ∧
    f.help.toList = unescapeHelp (said.getD [])

namespace Told

variable {raws : List (List Char)} {raw text : List Char} {name : String} {f : OpenFamily}

theorem new (h : ∀ line ∈ raws, ∀ keyword text, ¬ Describes keyword line name text) :
    Told raws (OpenFamily.new name).family where
  samples := nofun
  kind := ⟨none, .none fun line hline => h line hline .type, rfl⟩
  help := ⟨none, .none fun line hline => h line hline .help, by simp [OpenFamily.new, unescapeHelp]⟩

theorem skip (h : Told raws f.family)
    (hraw : ∀ keyword text, ¬ Describes keyword raw f.family.name text) :
    Told (raws ++ [raw]) f.family where
  samples := h.samples
  kind := by
    obtain ⟨said, hlast, hkind⟩ := h.kind
    exact ⟨said, hlast.skip (hraw .type), hkind⟩
  help := by
    obtain ⟨said, hlast, hhelp⟩ := h.help
    exact ⟨said, hlast.skip (hraw .help), hhelp⟩

theorem addSample (h : Told raws f.family) {s : Sample} (hs : NamedAfter f.family s.name) :
    Told raws (f.addSample s).family where
  samples t ht := by
    rcases List.mem_append.mp ht with ht | ht
    · exact h.samples t ht
    · exact List.mem_singleton.mp ht ▸ hs
  kind := h.kind
  help := h.help

theorem setHelp (h : Told raws f.family) {help : String}
    (hd : Describes .help raw f.family.name text) (hhelp : help.toList = unescapeHelp text) :
    Told (raws ++ [raw]) (f.setHelp help).family where
  samples := h.samples
  kind := by
    obtain ⟨said, hlast, hkind⟩ := h.kind
    exact ⟨said, hlast.skip (fun _ ho => nomatch (hd.unique ho).1), hkind⟩
  help := ⟨some text, .last raws hd, hhelp⟩

/-- A family may change its kind as long as no sample was put into it for the old one. -/
theorem setKind (h : Told raws f.family) {kind : MetricKind} (hnone : f.family.samples = [])
    (hd : Describes .type raw f.family.name kind.name.toList) :
    Told (raws ++ [raw]) (f.setKind kind).family where
  samples s hs := by
    have hempty : (f.setKind kind).family.samples = [] := hnone
    rw [hempty] at hs
    cases hs
  kind := ⟨some kind.name.toList, .last raws hd, rfl⟩
  help := by
    obtain ⟨said, hlast, hhelp⟩ := h.help
    exact ⟨said, hlast.skip (fun _ ho => nomatch (hd.unique ho).1), hhelp⟩

end Told

namespace Assembly

variable {a a' : Assembly} {content : LineContent} {placed : List Placement}
  {constants : Labels} {raws : List (List Char)} {raw : List Char} {name : String}

/-- Each family is as the lines so far say, and they describe no metric without a family. -/
structure Tells (a : Assembly) (raws : List (List Char)) : Prop where
  named : ∀ raw ∈ raws, ∀ keyword metric text, Describes keyword raw metric text → metric ∈ a.names
  told : ∀ f ∈ a.families, Told raws f.family

theorem empty_tells : empty.Tells [] where
  named := nofun
  told := nofun

/-- The family that a sample goes to takes samples of its name. -/
theorem namedAfter_owner (hd : a.names.Nodup) {g : OpenFamily} {sample : String}
    (hg : g ∈ a.families ∨ g = .new (a.owner sample) ∧ a.owner sample ∉ a.names)
    (hname : g.family.name = a.owner sample) : NamedAfter g.family sample := by
  rcases hg with hg | ⟨rfl, hnew⟩
  · unfold owner at hname
    cases hcurrent : a.current.bind a.find? with
    | none =>
      rw [hcurrent] at hname
      exact .inl hname.symm
    | some f =>
      rw [hcurrent] at hname
      simp only at hname
      split at hname
      · rename_i hfits
        obtain ⟨current, -, hfind⟩ := Option.bind_eq_some_iff.mp hcurrent
        obtain rfl : g = f := List.inj_on_of_nodup_map hd hg (name_of_find? hfind).1 hname
        exact fits_iff.mp hfits
      · exact .inl hname.symm
  · exact .inl (owner_of_not_mem hnew).symm

namespace Tells

/-- A line that describes no metric but the family that it goes to. -/
theorem use (h : a.Tells raws) {change : OpenFamily → OpenFamily}
    (hname : ∀ f, (change f).family.name = f.family.name)
    (hraw : ∀ keyword metric text, Describes keyword raw metric text → metric = name)
    (hchange : ∀ g, (g ∈ a.families ∨ g = .new name ∧ name ∉ a.names) → g.family.name = name →
      Told raws g.family → Told (raws ++ [raw]) (change g).family) :
    (a.use name change).Tells (raws ++ [raw]) where
  named line hline keyword metric text hd := by
    rw [use_names hname, List.mem_append]
    rcases List.mem_append.mp hline with hline | hline
    · exact .inl (h.named line hline keyword metric text hd)
    · obtain rfl := hraw keyword metric text (List.mem_singleton.mp hline ▸ hd)
      by_cases hin : metric ∈ a.names
      · exact .inl hin
      · simp [hin]
  told f hf := by
    obtain ⟨g, hg, rfl⟩ := mem_use hf
    have hold : Told raws g.family := by
      rcases hg with hg | ⟨rfl, hnew⟩
      · exact h.told g hg
      · exact .new fun line hline keyword text hd => hnew (h.named line hline keyword name text hd)
    split
    · rename_i heq
      exact hchange g hg heq hold
    · rename_i hne
      exact hold.skip fun keyword text hd => hne (hraw keyword _ text hd)

theorem report (h : a.Tells raws) (news : List Event) : (a.report news).Tells raws := { h with }

theorem after (h : a.Tells raws) (ht : a.Tracks placed)
    (hread : readLine constants raw = .ok content) (e : a.Effect content a') :
    a'.Tells (raws ++ [raw]) := by
  cases e with
  | nothing =>
    have hraw := not_describes hread (.inl rfl)
    constructor
    · intro line hline keyword metric text hd
      rcases List.mem_append.mp hline with hline | hline
      · exact h.named line hline keyword metric text hd
      · exact absurd (List.mem_singleton.mp hline ▸ hd) (hraw keyword metric text)
    · exact fun f hf => (h.told f hf).skip fun keyword => hraw keyword _
  | sample s =>
    have hraw := not_describes hread (.inr ⟨s, rfl⟩)
    refine h.use (fun _ => rfl) (fun keyword metric text hd => absurd hd (hraw _ _ _)) ?_
    intro g hg hname hold
    have hskip := hold.skip fun keyword => hraw keyword g.family.name
    exact hskip.addSample (namedAfter_owner ht.distinct hg hname)
  | @help metric text news hs =>
    obtain ⟨written, hd, hhelp⟩ := describes_help hread
    refine .report ?_ news
    refine h.use (fun _ => rfl) (fun keyword other text ho => (ho.unique hd).2.1) ?_
    rintro g hg rfl hold
    exact hold.setHelp hd hhelp
  | @kind metric word kind news hs hkind =>
    have hd := describes_kind hread
    have hword : word = kind.name.toList := by
      rw [name_of_ofName? hkind, String.toList_ofList]
    refine .report ?_ news
    refine h.use (fun _ => rfl) (fun keyword other text ho => (ho.unique hd).2.1) ?_
    rintro g hg rfl hold
    -- no sample was put into the family for the sake of its old kind
    have hnone : g.family.samples = [] := by
      rcases hg with hg | ⟨hnew, -⟩
      · exact samples_eq_nil ht.distinct hs hg rfl
      · rw [hnew]
        rfl
    exact hold.setKind hnone (hword ▸ hd)

end Tells

theorem Effect.hasSamples (e : a.Effect content a') {metric : String}
    (h : content.described? = some metric) : a.hasSamples metric = false := by
  cases e with
  | nothing => cases h
  | sample s => cases h
  | help news hs =>
    cases h
    exact hs
  | kind news hs =>
    cases h
    exact hs

/-- A HELP or TYPE line is read only while its family has no sample. -/
theorem samples_eq_nil_of_describes {keyword : Keyword} {metric : String} {text : List Char}
    {n : Nat} (h : a.Tracks placed) (hd : Describes keyword raw metric text)
    (hfeed : a.feed constants n raw = .ok a') :
    ∀ g ∈ a.finish, g.name = metric → g.samples = [] := by
  obtain ⟨content, hread, heffect⟩ := feed_eq_ok hfeed
  rw [DescriptionText.readLine hd constants] at hread
  obtain rfl := Except.ok.inj hread
  have hnone := heffect.hasSamples (describe_described? keyword metric text)
  intro g hg hname
  obtain ⟨f, hf, rfl⟩ := List.mem_map.mp hg
  exact samples_eq_nil h.distinct hnone hf hname

theorem tells_of_feedAll {ls : List (Nat × List Char)}
    (h : empty.feedAll constants ls = (a, none)) :
    ∃ placed, a.Tracks placed ∧ a.Tells (ls.map (·.2)) := by
  have hstart : empty.Tracks [] ∧ empty.Tells [] := ⟨empty_tracks, empty_tells⟩
  obtain ⟨-, placed, -, -, htracks, htells⟩ := @feedAll_induction _ _ _
    (fun a raws placed => a.Tracks placed ∧ a.Tells raws) constants [] ls
    (fun ha hread e => ⟨ha.1.after e, ha.2.after ha.1 hread e⟩) hstart h
  exact ⟨placed, htracks, htells⟩

end Assembly

/-- Every family is as the last HELP and TYPE lines that name it say, all of them come before its
first sample, and each of its samples fits it. -/
theorem read_described {constants : Labels} {text : List Char} {families : List MetricFamily}
    (h : (read constants text).result = .ok families) : ∀ f ∈ families,
      (∀ s ∈ f.samples, NamedAfter f s.name) ∧
      (∃ said, (∀ t, LastDescription .type f.name (lines text) t ↔ t = said) ∧
        said.elim (f.kind = .untyped) (· = f.kind.name.toList)) ∧
      (∃ said, (∀ t, LastDescription .help f.name (lines text) t ↔ t = said) ∧
        f.help.toList = unescapeHelp (said.getD [])) ∧
      ∀ above raw below keyword t, lines text = above ++ raw :: below →
        Describes keyword raw f.name t →
          ∃ early, readLines constants above = .ok early ∧
            ∀ g ∈ early, g.name = f.name → g.samples = [] := by
  rw [read_result] at h
  obtain ⟨a, hfeed, rfl⟩ := readLines_ok_iff.mp h
  obtain ⟨placed, -, htells⟩ := Assembly.tells_of_feedAll hfeed
  rw [numbered_lines] at htells
  intro f hf
  obtain ⟨o, ho, rfl⟩ := List.mem_map.mp hf
  obtain ⟨hsamples, ⟨kind, hkind, hkindSaid⟩, help, hhelp, hhelpSaid⟩ := htells.told o ho
  refine ⟨hsamples, ⟨kind, hkind.iff_eq, hkindSaid⟩, ⟨help, hhelp.iff_eq, hhelpSaid⟩, ?_⟩
  intro above raw below keyword t hlines hd
  rw [hlines] at h
  obtain ⟨b, c, habove, hraw⟩ := exists_feed_of_readLines h
  obtain ⟨before, hbefore, -⟩ := Assembly.tells_of_feedAll habove
  exact ⟨b.finish, readLines_ok_iff.mpr ⟨b, habove, rfl⟩,
    Assembly.samples_eq_nil_of_describes hbefore hd hraw⟩

/-- A gauge becomes a histogram before it has a sample, and its samples stay apart from those of a
family whose name is one of its own. -/
theorem read_described_overlapping :
    let text := ("# TYPE a gauge\n# HELP a one\n#TYPE a histogram\n# HELP a two\na_sum 1\n" ++
      "# TYPE a_count counter\na_count 2\n").toList
    let a : MetricFamily := ⟨"a", .histogram, "two", [⟨"a_sum", [], .ofDecimal false 1 0, none⟩]⟩
    let count : MetricFamily :=
      ⟨"a_count", .counter, "", [⟨"a_count", [], .ofDecimal false 2 0, none⟩]⟩
    (read [] text).result = .ok [a, count] ∧ NamedAfter a "a_sum" ∧
      LastDescription .type "a" (lines text) (some "histogram".toList) ∧
      ∃ early, readLines [] ((lines text).take 3) = .ok early ∧
        ∀ g ∈ early, g.name = "a" → g.samples = [] := by
  intro text a count
  have hread : (read [] text).result = .ok [a, count] := by decide +kernel
  obtain ⟨hsamples, ⟨said, hlast, hsaid⟩, -, hearly⟩ := read_described hread a (by simp)
  refine ⟨hread, hsamples _ (List.mem_singleton_self _), ?_, ?_⟩
  · cases said with
    | none => cases hsaid
    | some written =>
      obtain rfl : written = "histogram".toList := hsaid
      exact (hlast _).mpr rfl
  · have hblank : All isBlank [' '] := by decide
    have hname : NameText isMetricStart isMetricChar ['a'] := .intro (by decide) all_nil
    have htail : Stops isInk [' ', 't', 'w', 'o'] := stops_cons.mpr (by decide)
    have hd : Describes .help "# HELP a two".toList "a" ['t', 'w', 'o'] :=
      descriptionText_of_name .help hblank hblank (by simp) hname htail
    have hlines : lines text =
        (lines text).take 3 ++ "# HELP a two".toList :: (lines text).drop 4 := by decide +kernel
    exact hearly _ _ _ _ _ hlines hd

end MetricArchive.Exposition
