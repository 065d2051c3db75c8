import MetricArchive.Proofs.Exposition.Placement
import MetricArchive.Proofs.Exposition.RoundTrip
import MetricArchive.Proofs.Text.Lines

/-!
# Texts inside a line

Escapes keep the line feed out of a line, but a line also ends at nine other line breaks. Main
statement: a HELP line and a sample line give back their texts when read exactly if the label value
holds none of these and the help text holds one only among the blanks at its end.
-/
namespace MetricArchive.Exposition

open Text

section Escapes

variable {c : Char} {help value part more : List Char}

theorem oneBreak_of_escape (h : All isInline (escape value)) : OneBreak value := by
  intro c hc hb
  by_contra hn
  have hplain : c ∈ escapeChar c := by
    unfold escapeChar
    split <;> simp_all
  have hinline := h c (List.mem_flatMap.mpr ⟨c, hc, hplain⟩)
  simp [isInline, hb] at hinline

/-- No beginning of an escaped value closes it. -/
theorem readQuoted_escape_prefix (h : escape value = part ++ more) :
    ∃ e, readQuoted part = .error e := by
  cases hread : readQuoted part with
  | error e => exact ⟨e, rfl⟩
  | ok found =>
    obtain ⟨early, rest⟩ := found
    obtain ⟨quoted, hquoted, rfl⟩ := readQuoted_iff.mp hread
    have hclosed := readQuoted_escape value []
    have hearly : readQuoted (escape value ++ ['"']) = .ok (early, rest ++ (more ++ ['"'])) :=
      readQuoted_iff.mpr ⟨quoted, hquoted, by simp [h]⟩
    simp [hclosed] at hearly

def isPlainBlank (c : Char) : Bool := isBlank c && c != '\n'

theorem escapeHelp_blanks {blanks : List Char} (h : All isPlainBlank blanks) :
    escapeHelp blanks = blanks ∧ All isBlank blanks := by
  have hplain : ∀ c ∈ blanks, escapeHelpChar c = [c] := by
    intro c hc
    have hblank := h c hc
    unfold escapeHelpChar
    split
    · exact absurd hblank (by decide)
    · exact absurd hblank (by decide)
    · rfl
  exact ⟨(List.flatMap_congr hplain).trans (List.flatMap_singleton' blanks),
    h.imp fun c hc => (Bool.and_eq_true_iff.mp hc).1⟩

theorem escapeHelpChar_word (h : isPlainBlank c = false) : Word (escapeHelpChar c) := by
  unfold escapeHelpChar
  split
  · exact ⟨by simp, by decide⟩
  · exact ⟨by simp, by decide⟩
  · rename_i hn
    have hblank : isBlank c = true → c = '\n' := by simpa [isPlainBlank] using h
    have hink : isInk c = true := by simpa [isInk] using mt hblank hn
    exact ⟨by simp, by simpa using hink⟩

theorem trim_escapeHelp_eq_self (hstart : Stops isPlainBlank help)
    (hend : Stops isPlainBlank help.reverse) : trim (escapeHelp help) = escapeHelp help := by
  have hfirst : trimStart (escapeHelp help) = escapeHelp help := by
    cases help with
    | nil => rfl
    | cons c help =>
      have hword := escapeHelpChar_word (stops_cons.mp hstart)
      obtain ⟨d, ds, hd⟩ := List.exists_cons_of_ne_nil hword.nonempty
      have hink : isBlank d = false := by
        simpa [isInk] using hword.ink d (hd ▸ List.mem_cons_self)
      rw [escapeHelp, List.flatMap_cons, hd]
      exact trimStart_of_not_blank hink _
  have hlast : trimEnd (escapeHelp help) = escapeHelp help := by
    rcases List.eq_nil_or_concat' help with rfl | ⟨help, c, rfl⟩
    · rfl
    · have hword := escapeHelpChar_word (c := c) (by simpa using hend)
      rw [escapeHelp, List.flatMap_append, List.flatMap_singleton]
      exact trimEnd_append_eq_self hword.trimEnd hword.nonempty
  rw [trim, hfirst, hlast]

/-- Trimming an escaped help text takes blanks from the ends of the text, but no line feed. -/
theorem trim_escapeHelp (help : List Char) : ∃ lead core tail, help = lead ++ (core ++ tail) ∧
    All isBlank lead ∧ All isBlank tail ∧ trim (escapeHelp help) = escapeHelp core := by
  obtain ⟨lead, body, rfl, hlead, hbody⟩ := exists_run isPlainBlank help
  obtain ⟨back, front, hback, htail, hfront⟩ := exists_run isPlainBlank body.reverse
  obtain rfl : body = front.reverse ++ back.reverse := by
    rw [← List.reverse_append, ← hback, List.reverse_reverse]
  obtain ⟨hleadText, hleadBlank⟩ := escapeHelp_blanks hlead
  have htail' : All isPlainBlank back.reverse := by simpa [All] using htail
  obtain ⟨htailText, htailBlank⟩ := escapeHelp_blanks htail'
  have hstart : Stops isPlainBlank front.reverse := by
    cases hf : front.reverse with
    | nil => exact stops_nil
    | cons c core => simpa [hf] using hbody
  refine ⟨lead, front.reverse, back.reverse, rfl, hleadBlank, htailBlank, ?_⟩
  calc trim (escapeHelp (lead ++ (front.reverse ++ back.reverse)))
      = trim (lead ++ (escapeHelp front.reverse ++ back.reverse)) := by
        simp only [escapeHelp, List.flatMap_append] at hleadText htailText ⊢
        rw [hleadText, htailText]
    _ = trim (escapeHelp front.reverse) := trim_blanks hleadBlank htailBlank
    _ = escapeHelp front.reverse := trim_escapeHelp_eq_self hstart (by simpa using hfront)

/-- What is read from a trimmed help text is the text up to blanks at its ends. -/
theorem trim_unescapeHelp_trim (help : List Char) :
    trim (unescapeHelp (trim (escapeHelp help))) = trim help := by
  obtain ⟨lead, core, tail, rfl, hlead, htail, hcore⟩ := trim_escapeHelp help
  rw [hcore, unescapeHelp_escapeHelp, trim_blanks hlead htail]

theorem count_escapeHelp (help : List Char) : (escapeHelp help).count '#' = help.count '#' := by
  induction help with
  | nil => rfl
  | cons c help ih =>
    have hc : (escapeHelpChar c).count '#' = [c].count '#' := by
      unfold escapeHelpChar
      split <;> rfl
    rw [escapeHelp, List.flatMap_cons, List.count_append, hc, ← escapeHelp, ih,
      ← List.count_append, List.singleton_append]

theorem count_unescapeHelp (text : List Char) : (unescapeHelp text).count '#' ≤ text.count '#' := by
  fun_induction unescapeHelp text with
  | case1 rest ih => simpa using ih
  | case2 rest ih => simpa using ih
  | case3 c rest _ _ ih => simpa [List.count_cons] using ih
  | case4 => simp

end Escapes

section Lines

variable {constants : Labels} {raw : List Char} {content : LineContent} {metric text : String}

/-- The number sign that starts a HELP line is not part of its text. -/
theorem count_help (h : readLine constants raw = .ok (.help metric text)) :
    text.toList.count '#' < raw.count '#' := by
  obtain ⟨keyword, name, written, htext, hcontent⟩ :=
    (readLine_description_iff constants).mp ⟨h, nofun, nofun⟩
  cases keyword with
  | type => cases hcontent
  | help =>
    cases hcontent
    have hunescape := count_unescapeHelp written
    rw [String.toList_ofList, ← count_trim (by decide) raw]
    generalize trim raw = line at htext
    cases htext
    simp only [List.count_cons_self, List.count_append]
    omega

/-- A line with something in it is a sample or holds a number sign. -/
theorem mem_of_no_sample (h : readLine constants raw = .ok content) (hn : content.sample? = none)
    {c : Char} (hc : c ∈ raw) (hi : isInk c = true) : '#' ∈ raw := by
  obtain ⟨lead, tail, hraw, hl, ht⟩ := exists_trim raw
  unfold readLine at h
  split at h
  · rename_i htrim
    have hall : All isBlank raw := by
      rw [hraw, htrim]
      simp [hl, ht]
    simp [isInk, hall c hc] at hi
  · rename_i body htrim
    rw [hraw, htrim]
    simp
  · cases hs : readSample constants (trim raw) with
    | error e => simp [hs, Except.map] at h
    | ok s =>
      simp only [hs, Except.map, Except.ok.injEq] at h
      subst h
      cases hn

theorem readLabels_error {line cs more : List Char} {found : Labels} {c : Char}
    {e : LineRefusal} (h : skipSpace cs = c :: more) (hc : c ≠ '}')
    (hi : readItem (c :: more) = .error e) : readLabels line found cs = .error e := by
  rw [readLabels]
  split
  · simp_all
  · rename_i hd
    rw [h] at hd
    cases hd
    exact absurd rfl hc
  · rename_i d tail _ hd
    rw [h] at hd
    cases hd
    split
    · rename_i hitem
      rw [hi] at hitem
      cases hitem
      rfl
    · simp_all

theorem readLine_blank (h : All isBlank raw) : readLine constants raw = .ok .nothing := by
  have hnone : trimStart raw = [] := List.dropWhile_eq_nil_iff.mpr h
  have htrim : trim raw = [] := by simp [trim, hnone, trimEnd]
  simp [readLine, htrim]

theorem feedAll_blank {a : Assembly} {ls : List (Nat × List Char)}
    (h : ∀ l ∈ ls.map (·.2), All isBlank l) : a.feedAll constants ls = (a, none) := by
  induction ls with
  | nil => rfl
  | cons l ls ih =>
    obtain ⟨hl, hls⟩ := List.forall_mem_cons.mp h
    have hfeed : a.feed constants l.1 l.2 = .ok a := by
      simp [Assembly.feed, readLine_blank hl, Except.bind, Assembly.add]
    simp [Assembly.feedAll, hfeed, ih hls]

end Lines

def labelled (metric label value : String) : WrittenSample := ⟨metric, [(label, value)], "1", none⟩

def describedSample (metric label help value : String) : List Char :=
  [helpLine metric help, sampleLine (labelled metric label value)].flatMap (· ++ ['\n'])

/-- One family is read, with the help text up to blanks at its ends, and one sample with the
label. -/
def GivesBack (metric label help value : String) (families : List MetricFamily) : Prop :=
  ∃ f s, families = [f] ∧ f.name = metric ∧ trim f.help.toList = trim help.toList ∧
    f.samples = [s] ∧ s.name = metric ∧ s.labels = [(label, value)]

def opening (metric label : String) : List Char :=
  metric.toList ++ '{' :: (label.toList ++ ['=', '"'])

section Described

variable {metric label help value : String} {families : List MetricFamily}
  {constants : Labels} {part more : List Char}

theorem sampleLine_labelled (metric label value : String) :
    sampleLine (labelled metric label value) =
      opening metric label ++ (escape value.toList ++ ['"', '}', ' ', '1']) := by
  simp [labelled, sampleLine, labelSetText, labelText, opening]

theorem lines_describedSample (metric label help value : String) :
    lines (describedSample metric label help value) = lines (helpLine metric help ++ ['\n']) ++
      lines (sampleLine (labelled metric label value) ++ ['\n']) := by
  rw [← lines_append_newline]
  simp [describedSample]

/-- Where there is one sample and it is on the last line, no other line holds one. -/
theorem sample?_eq_none {raws : List (List Char)} {last : List Char} {contents : List LineContent}
    {s : Sample} (hread : (raws ++ [last]).map (readLine constants) = contents.map .ok)
    (hlast : readLine constants last = .ok (.sample s))
    (hone : (contents.filterMap (·.sample?)).length = 1) {raw : List Char} (hraw : raw ∈ raws) :
    ∃ content, readLine constants raw = .ok content ∧ content.sample? = none := by
  rw [List.map_append, List.map_singleton, hlast] at hread
  obtain ⟨others, ends, rfl, hothers, hends⟩ := List.map_eq_append_iff.mp hread.symm
  obtain rfl : ends = [.sample s] := by
    simpa using hends
  have hnone : others.filterMap (·.sample?) = [] := by
    simpa [LineContent.sample?] using hone
  have hmem := hothers ▸ List.mem_map_of_mem (f := readLine constants) hraw
  obtain ⟨content, hcontent, hok⟩ := List.mem_map.mp hmem
  exact ⟨content, hok.symm, List.filterMap_eq_nil_iff.mp hnone content hcontent⟩

/-- The help text of a family is empty or that of a line. -/
theorem helpOf_cases (placed : List Placement) (name : String) : helpOf placed name = "" ∨
    .help name (helpOf placed name) ∈ placed.map (·.content) := by
  unfold helpOf
  cases hlast : (placed.filterMap (·.content.helpFor? name)).getLast? with
  | none => exact .inl rfl
  | some text =>
    obtain ⟨p, hp, htext⟩ := List.mem_filterMap.mp (List.mem_of_getLast? hlast)
    exact .inr (List.mem_map.mpr ⟨p, hp, Assembly.helpFor?_eq_some.mp htext⟩)

variable (hm : NameText isMetricStart isMetricChar metric.toList)

include hm

theorem helpLine_start :
    All isInline (helpLine metric "") ∧ (helpLine metric "").count '#' = 1 := by
  have hword := metricName_word hm
  have hmarks : All isInline ['#', ' ', 'H', 'E', 'L', 'P', ' '] ∧ All isInline [' '] := by decide
  have hsign : metric.toList.count '#' = 0 := by
    refine List.count_eq_zero.mpr fun hmem => ?_
    have hchar := hm.all (fun _ hc => isMetricChar_of_isMetricStart hc) (fun _ hc => hc) _ hmem
    exact absurd hchar (by decide)
  refine ⟨?_, ?_⟩
  · simp only [helpLine, all_append]
    exact ⟨⟨⟨hmarks.1, hword.inline⟩, hmarks.2⟩, by simp [escapeHelp]⟩
  · simp [helpLine, escapeHelp, hsign]

/-- A break in an escaped help text ends the HELP line, and the rest of the text follows it. -/
theorem lines_helpLine_break {c : Char} {rest : List Char}
    (hcut : escapeHelp help.toList = part ++ c :: rest) (hpart : All isInline part)
    (hc : isLineBreak c = true) : ∃ next, lines (helpLine metric help ++ ['\n']) =
      (helpLine metric "" ++ part) :: lines next ∧ ∀ d, d ≠ '\n' → next.count d = rest.count d := by
  obtain ⟨hinline, -⟩ := helpLine_start hm
  obtain ⟨next, hlines, hnext⟩ := lines_break (all_append.mpr ⟨hinline, hpart⟩) hc (rest ++ ['\n'])
  refine ⟨next, by simpa [helpLine_eq metric help, hcut] using hlines, fun d hd => ?_⟩
  have hall : (rest ++ ['\n']).count d = rest.count d := by simp [hd.symm]
  rcases hnext with rfl | hnext
  · exact hall
  · rw [← hall, hnext, List.count_cons_of_ne hd.symm]

/-- Where a break cuts a help text before a number sign, no HELP line says the whole text. -/
theorem count_help_lt {c : Char} {rest raw : List Char} {name text : String}
    (hcut : escapeHelp help.toList = part ++ c :: rest) (hpart : All isInline part)
    (hc : isLineBreak c = true) (hsign : '#' ∈ rest)
    (hraw : raw ∈ lines (helpLine metric help ++ ['\n']))
    (hread : readLine constants raw = .ok (.help name text)) :
    text.toList.count '#' < help.toList.count '#' := by
  have htext := count_help hread
  have hpos := List.count_pos_iff.mpr hsign
  have hhelp : help.toList.count '#' = part.count '#' + rest.count '#' := by
    have hne : c ≠ '#' := by
      rintro rfl
      exact absurd hc (by decide)
    rw [← count_escapeHelp, hcut, List.count_append, List.count_cons_of_ne hne]
  obtain ⟨next, hlines, hnext⟩ := lines_helpLine_break hm hcut hpart hc
  rw [hlines, List.mem_cons] at hraw
  rcases hraw with rfl | hraw
  · rw [List.count_append, (helpLine_start hm).2] at htext
    omega
  · have hline := (line_sublist hraw).count_le '#'
    have hsame := hnext '#' (by decide)
    omega

/-- Where no piece of a cut help text is a sample, a number sign follows the cut. -/
theorem sign_mem {c d : Char} {rest : List Char} (hcut : escapeHelp help.toList = part ++ c :: rest)
    (hpart : All isInline part) (hc : isLineBreak c = true) (hd : d ∈ rest) (hink : isInk d = true)
    (hnone : ∀ raw ∈ lines (helpLine metric help ++ ['\n']),
      ∃ content, readLine constants raw = .ok content ∧ content.sample? = none) : '#' ∈ rest := by
  obtain ⟨next, hlines, hnext⟩ := lines_helpLine_break hm hcut hpart hc
  have hmem : ∀ e, e ≠ '\n' → (e ∈ next ↔ e ∈ rest) := fun e he => by
    rw [← List.count_pos_iff, hnext e he, List.count_pos_iff]
  have hne : d ≠ '\n' := by
    rintro rfl
    exact absurd hink (by decide)
  obtain ⟨l, hline, hdl⟩ := exists_line_of_mem ((hmem d hne).mpr hd) (isInline_of_isInk hink)
  obtain ⟨content, hcontent, hsample⟩ := hnone l (hlines ▸ List.mem_cons_of_mem _ hline)
  have hsign := mem_of_no_sample hcontent hsample hdl hink
  exact (hmem '#' (by decide)).mp ((line_sublist hline).subset hsign)

variable (hl : NameText isLabelStart isLabelChar label.toList)

include hl

theorem opening_inline : All isInline (opening metric label) := by
  have hmarks : isInline '{' = true ∧ All isInline ['=', '"'] := by decide
  exact all_append.mpr ⟨(metricName_word hm).inline,
    all_cons.mpr ⟨hmarks.1, all_append.mpr ⟨labelName_inline hl, hmarks.2⟩⟩⟩

theorem readSample_unclosed (constants : Labels) (h : escape value.toList = part ++ more) :
    ∃ e, readSample constants (opening metric label ++ part) = .error e := by
  have hopening : opening metric label ++ part =
      metric.toList ++ '{' :: (label.toList ++ '=' :: '"' :: part) := by simp [opening]
  obtain ⟨e, he⟩ := readQuoted_escape_prefix h
  obtain ⟨c, cs, hlabel, hc⟩ := hl.head
  have hname : cutName isMetricStart isMetricChar
      (metric.toList ++ '{' :: (label.toList ++ '=' :: '"' :: part)) = _ :=
    cutName_iff.mpr ⟨rfl, hm, stops_cons.mpr (by decide)⟩
  have hitem : readItem (label.toList ++ '=' :: '"' :: part) = .error e := by
    have hcut : cutName isLabelStart isLabelChar (label.toList ++ '=' :: '"' :: part) = _ :=
      cutName_iff.mpr ⟨rfl, hl, stops_cons.mpr (by decide)⟩
    simp [readItem, hcut, skipSpace, isSpaceOrTab, he]
  have hskip : skipSpace (label.toList ++ '=' :: '"' :: part) =
      c :: (cs ++ '=' :: '"' :: part) := by
    simp [hlabel, skipSpace, not_isSpaceOrTab_of_isLabelStart hc]
  have hclose : c ≠ '}' := by
    rintro rfl
    exact absurd hc (by decide)
  have hlabels : ∀ line, readLabels line [] (label.toList ++ '=' :: '"' :: part) = .error e :=
    fun _ => readLabels_error hskip hclose (by simpa [hlabel] using hitem)
  refine ⟨e, ?_⟩
  simp [hopening, readSample, hname, readAfterName, skipSpace, isSpaceOrTab, hlabels, Except.map,
    bind, Except.bind]

/-- A line that ends before the closing quote of its label value is refused. -/
theorem readLine_unclosed (constants : Labels) (h : escape value.toList = part ++ more) :
    ∃ e, readLine constants (opening metric label ++ part) = .error e := by
  obtain ⟨tail, hpart, hblank⟩ := exists_trimEnd part
  have hstop := stops_trimEnd part
  generalize trimEnd part = inner at hpart hstop
  subst hpart
  rw [List.append_assoc] at h
  obtain ⟨e, he⟩ := readSample_unclosed hm hl constants h
  obtain ⟨c, cs, hmetric, hc⟩ := hm.head
  have hend : trimEnd ('"' :: inner) = '"' :: inner := by
    rw [trimEnd_eq_self, List.reverse_cons]
    exact hstop.append (stops_cons.mpr (by decide))
  obtain ⟨front, hfront⟩ : ∃ front, opening metric label = c :: front ++ ['"'] :=
    ⟨cs ++ '{' :: (label.toList ++ ['=']), by simp [opening, hmetric]⟩
  have htrim : trim (opening metric label ++ (inner ++ tail)) = opening metric label ++ inner := by
    have hink := isInk_of_isMetricChar (isMetricChar_of_isMetricStart hc)
    have hall := @trimEnd_append_eq_self (c :: front) _ hend (by simp)
    simpa [hfront] using trim_ink hink hall hblank
  refine ⟨e, ?_⟩
  rw [readLine_of_start htrim (by rw [hfront]; rfl) hc, he, Except.map]

theorem oneBreak_of_read
    (h : (read [] (describedSample metric label help value)).result = .ok families) :
    OneBreak value.toList := by
  refine oneBreak_of_escape ?_
  obtain ⟨contents, -, hread, -⟩ := read_grouped h
  obtain ⟨part, more, hescape, hpart, hmore⟩ := exists_run isInline (escape value.toList)
  cases more with
  | nil => rwa [hescape, List.append_nil]
  | cons c more =>
    have hc : isLineBreak c = true := by simpa [isInline] using hmore
    have hstart := all_append.mpr ⟨opening_inline hm hl, hpart⟩
    obtain ⟨next, hcut, -⟩ := lines_break hstart hc (more ++ ['"', '}', ' ', '1', '\n'])
    have hline : opening metric label ++ part ∈
        lines (describedSample metric label help value) := by
      rw [List.append_assoc] at hcut
      simp [lines_describedSample, sampleLine_labelled, hescape, hcut]
    obtain ⟨e, he⟩ := readLine_unclosed hm hl [] hescape
    have hok := List.mem_map_of_mem (f := readLine []) hline
    simp [hread, he] at hok

theorem labelled_valid (hv : OneBreak value.toList) :
    WrittenFamily.Valid ⟨metric, .untyped, "", []⟩ ∧
      (labelled metric label value).Valid ⟨metric, .untyped, "", []⟩ where
  left := {
    name := hm
    help := rfl
    helpBreaks := by simp [OneBreak]
    samples := by simp }
  right := {
    name := .inl rfl
    labelNames := by simpa [labelled] using hl
    labelsDistinct := by simp [labelled]
    labelValues := by simpa [labelled] using hv
    value := by
      have hone := NumberText.decimal .absent
        (@MantissaText.whole ['1'] (by decide) (by decide)) .absent
      exact ⟨_, by simpa [labelled] using hone⟩
    timestamp := by simp [labelled] }

/-- The sample line is the last line of the two, and read as what it was written from. -/
theorem exists_last_line (help : String) (hv : OneBreak value.toList) :
    lines (describedSample metric label help value) =
        lines (helpLine metric help ++ ['\n']) ++ [sampleLine (labelled metric label value)] ∧
      ∃ s, readLine [] (sampleLine (labelled metric label value)) = .ok (.sample s) ∧
        (labelled metric label value).Means s := by
  obtain ⟨hfamily, hsample⟩ := labelled_valid hm hl hv
  refine ⟨?_, readLine_sampleLine hfamily hsample⟩
  rw [lines_describedSample, lines_line (sampleLine_inline hfamily hsample), lines]

theorem inline_help_of_read
    (h : (read [] (describedSample metric label help value)).result = .ok families)
    (hg : GivesBack metric label help value families) :
    All isInline (trimEnd (escapeHelp help.toList)) := by
  obtain ⟨contents, placed, hread, hplaced, hgrouped, hhelp⟩ := read_grouped h
  obtain ⟨f, s, rfl, -, htrim, hsamples, -, -⟩ := hg
  obtain ⟨hlines, p, hlast, -⟩ := exists_last_line hm hl help (oneBreak_of_read hm hl h)
  rw [hlines] at hread
  have hone : (contents.filterMap (·.sample?)).length = 1 := by
    have hlength := hgrouped.samples_perm.length_eq
    rw [samplesOf_eq, hplaced, filterMap_sample?_filter] at hlength
    simpa [hsamples] using hlength.symm
  by_contra hbreak
  obtain ⟨part, c, rest, d, hcut, hpart, hc, hd, hink⟩ := exists_break hbreak
  have hsign := sign_mem hm hcut hpart hc hd hink fun _ => sample?_eq_none hread hlast hone
  -- the family's help text has fewer number signs than the text that was written
  have hlt : f.help.toList.count '#' < help.toList.count '#' := by
    rw [hhelp f (List.mem_singleton_self f)]
    rcases helpOf_cases placed f.name with hempty | hmem
    · have hpos := List.count_pos_iff.mpr hsign
      rw [hempty, ← count_escapeHelp help.toList, hcut, List.count_append, List.count_cons]
      exact Nat.lt_of_lt_of_le hpos (by omega)
    · rw [hplaced] at hmem
      have hok := hread ▸ List.mem_map_of_mem (f := Except.ok) (List.mem_of_mem_filter hmem)
      obtain ⟨raw, hraw, htext⟩ := List.mem_map.mp hok
      rcases List.mem_append.mp hraw with hraw | hraw
      · exact count_help_lt hm hcut hpart hc hsign hraw htext
      · obtain rfl := List.mem_singleton.mp hraw
        rw [hlast] at htext
        cases htext
  rw [← count_trim (by decide) f.help.toList, htrim, count_trim (by decide)] at hlt
  exact absurd hlt (Nat.lt_irrefl _)

theorem givesBack_of_inline (hh : All isInline (trimEnd (escapeHelp help.toList)))
    (hv : OneBreak value.toList) :
    ∃ families, (read [] (describedSample metric label help value)).result = .ok families ∧
      GivesBack metric label help value families := by
  obtain ⟨hlines, s, hlast, hmeans⟩ := exists_last_line hm hl help hv
  obtain ⟨core, tail, htext, hcore, htail, hh⟩ : ∃ core tail,
      escapeHelp help.toList = core ++ tail ∧ trimEnd core = core ∧ All isBlank tail ∧
        All isInline core := by
    obtain ⟨tail, htext, htail⟩ := exists_trimEnd (escapeHelp help.toList)
    exact ⟨_, tail, htext, trimEnd_eq_self.mpr (stops_trimEnd _), htail, hh⟩
  obtain ⟨blanks, more, hfirst, hblanks, hmore⟩ :=
    lines_blanks (all_append.mpr ⟨(helpLine_start hm).1, hh⟩) htail
  have hhelp : lines (helpLine metric help ++ ['\n']) =
      (helpLine metric "" ++ (core ++ blanks)) :: more := by
    simpa [helpLine_eq metric help, htext] using hfirst
  have hread := readLine_helpText [] hm hcore hblanks
  -- the numbered lines are the HELP line, blank lines and the sample line
  have hnumbered := (numberedLines_lines (describedSample metric label help value)).trans hlines
  rw [hhelp, List.cons_append] at hnumbered
  obtain ⟨⟨n, raw⟩, later, hnumbers, rfl, hlater⟩ := List.map_eq_cons_iff.mp hnumbered
  obtain ⟨ls, ends, rfl, rfl, hends⟩ := List.map_eq_append_iff.mp hlater
  obtain ⟨⟨m, last⟩, rfl, rfl⟩ := List.map_eq_singleton_iff.mp hends
  obtain ⟨a, ha, haends⟩ := @Assembly.add_help_fresh .empty metric (by simp [Assembly.empty]) n
    (String.ofList (unescapeHelp (trim core)))
  have hfits : MetricFamily.fits metric .untyped s.name = true := by
    simp [MetricFamily.fits, hmeans.name, labelled]
  obtain ⟨b, hb, hbends⟩ := haends.add_sample m hfits
  have hfeed : Assembly.empty.feedAll [] (numberedLines (describedSample metric label help value)) =
      (b, none) := by
    rw [hnumbers, Assembly.feedAll, Assembly.feed_ok hread ha]
    simp only
    rw [Assembly.feedAll_append, feedAll_blank hmore]
    simp only [Assembly.feedAll, Assembly.feed_ok hlast hb]
  have htrim : trim (unescapeHelp (trim core)) = trim help.toList := by
    have hsame : trim (escapeHelp help.toList) = trim core := by
      rw [htext]
      exact @trim_blanks core [] tail all_nil htail
    rw [← hsame, trim_unescapeHelp_trim]
  refine ⟨b.finish, by simp [read, hfeed],
    ⟨metric, .untyped, String.ofList (unescapeHelp (trim core)), [s]⟩, s, ?_, rfl, ?_, rfl,
    hmeans.name, hmeans.labels⟩
  · rw [Assembly.finish, hbends.families]
    rfl
  · rwa [String.toList_ofList]

/-- A HELP line and a sample line give back their texts if and only if no line break stands in the
escaped texts, but for the blanks at the end of the help text. -/
theorem read_describedSample_iff :
    (∃ families, (read [] (describedSample metric label help value)).result = .ok families ∧
      GivesBack metric label help value families) ↔
      All isInline (trimEnd (escapeHelp help.toList)) ∧ OneBreak value.toList := by
  constructor
  · rintro ⟨families, hread, hgives⟩
    exact ⟨inline_help_of_read hm hl hread hgives, oneBreak_of_read hm hl hread⟩
  · rintro ⟨hhelp, hvalue⟩
    exact givesBack_of_inline hm hl hhelp hvalue

end Described

/-- Escapes, and a break among the blanks at the end of the help text, do no harm. -/
theorem read_describedSample_escaped :
    NameText isMetricStart isMetricChar "m".toList ∧ NameText isLabelStart isLabelChar "l".toList ∧
      ∃ families,
        (read [] (describedSample "m" "l" "a\n\\ b \u2028" "\"\n")).result = .ok families ∧
          GivesBack "m" "l" "a\n\\ b \u2028" "\"\n" families := by
  have hm : NameText isMetricStart isMetricChar "m".toList := .intro (by decide) all_nil
  have hl : NameText isLabelStart isLabelChar "l".toList := .intro (by decide) all_nil
  exact ⟨hm, hl, (read_describedSample_iff hm hl).mpr (by decide)⟩

/-- The second piece of a help text that a break cuts in two is read as a sample. -/
theorem read_help_sample :
    let sample (labels : Labels) (n : Nat) : Sample := ⟨"m", labels, .ofDecimal false n 0, none⟩
    (read [] (describedSample "m" "l" "a\u2028m 2" "v")).result =
        .ok [⟨"m", .untyped, "a", [sample [] 2, sample [("l", "v")] 1]⟩] ∧
      ¬ ∃ families, (read [] (describedSample "m" "l" "a\u2028m 2" "v")).result = .ok families ∧
        GivesBack "m" "l" "a\u2028m 2" "v" families := by
  intro sample
  have hread : (read [] (describedSample "m" "l" "a\u2028m 2" "v")).result =
      .ok [⟨"m", .untyped, "a", [sample [] 2, sample [("l", "v")] 1]⟩] := by decide +kernel
  refine ⟨hread, ?_⟩
  rintro ⟨families, h, f, s, rfl, -, -, hsamples, -⟩
  obtain rfl : f = _ := (List.cons.inj (Except.ok.inj (h.symm.trans hread))).1
  simp at hsamples

end MetricArchive.Exposition
