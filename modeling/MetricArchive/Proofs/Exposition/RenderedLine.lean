import MetricArchive.Exposition.Render
import MetricArchive.Proofs.Exposition.DescriptionGrammar
import MetricArchive.Proofs.Exposition.SampleGrammar

/-!
# Rendered lines read back

Each line that is written for a family says on reading what it was written from: the HELP line the
help text, the TYPE line the kind, and a sample's line the sample, with the number and the moment
that its texts name.
-/
namespace MetricArchive.Exposition

open Text

/-- The line feed is the only line break in a text. -/
def OneBreak (cs : List Char) : Prop := ∀ c ∈ cs, isLineBreak c = true → c = '\n'

instance (cs : List Char) : Decidable (OneBreak cs) :=
  List.decidableBAll (fun c => isLineBreak c = true → c = '\n') cs

structure WrittenSample.Valid (f : WrittenFamily) (s : WrittenSample) : Prop where
  name : s.name = f.name ∨ ∃ suffix ∈ f.kind.suffixes, s.name = f.name ++ suffix
  labelNames : ∀ l ∈ s.labels, NameText isLabelStart isLabelChar l.1.toList
  labelsDistinct : (s.labels.map (·.1)).Nodup
  labelValues : ∀ l ∈ s.labels, OneBreak l.2.toList
  value : ∃ x, NumberText s.value.toList x
  timestamp : ∀ t ∈ s.timestamp, InCalendar t

structure WrittenFamily.Valid (f : WrittenFamily) : Prop where
  name : NameText isMetricStart isMetricChar f.name.toList
  help : trim (escapeHelp f.help.toList) = escapeHelp f.help.toList
  helpBreaks : OneBreak f.help.toList
  samples : ∀ s ∈ f.samples, s.Valid f

structure WrittenSample.Means (s : WrittenSample) (p : Sample) : Prop where
  name : p.name = s.name
  labels : p.labels = s.labels
  value : NumberText s.value.toList p.value
  timestamp : p.timestamp = s.timestamp.map fun t => .utc (t * 1000)

theorem isMetricChar_of_isLabelChar {c : Char} (h : isLabelChar c = true) :
    isMetricChar c = true := by
  simp only [isLabelChar, Bool.or_eq_true] at h
  rcases h with h | h <;> simp [isMetricChar, isMetricStart, h]

theorem labelName_inline {name : List Char} (h : NameText isLabelStart isLabelChar name) :
    All isInline name := by
  have hchars : All isMetricChar name :=
    h.all (fun c hc => by simp [isMetricChar, isMetricStart, hc]) fun _ =>
      isMetricChar_of_isLabelChar
  exact hchars.imp fun _ hc => isInline_of_isInk (isInk_of_isMetricChar hc)

/-- A line that begins like a metric name is read as a sample. -/
theorem readLine_of_start {constants : Labels} {raw line cs : List Char} {c : Char}
    (htrim : trim raw = line) (hline : line = c :: cs) (hc : isMetricStart c = true) :
    readLine constants raw = (readSample constants line).map .sample := by
  have hhash : c ≠ '#' := by
    rintro rfl
    exact absurd hc (by decide)
  unfold readLine
  rw [htrim, hline]
  split
  · contradiction
  · rename_i body hcomment
    exact absurd (List.cons.inj hcomment).1 hhash
  · rfl

theorem all_flatMap {p : Char → Bool} {f : Char → List Char} {cs : List Char}
    (h : ∀ c ∈ cs, All p (f c)) : All p (cs.flatMap f) := by
  intro d hd
  obtain ⟨c, hc, hdc⟩ := List.mem_flatMap.mp hd
  exact h c hc d hdc

theorem isInline_of_ne {c : Char} (h : isLineBreak c = true → c = '\n') (hc : c ≠ '\n') :
    isInline c = true := by
  by_contra hb
  simp only [isInline, Bool.not_eq_true', Bool.not_eq_false] at hb
  exact hc (h hb)

theorem escape_inline {value : List Char} (h : OneBreak value) : All isInline (escape value) := by
  refine all_flatMap fun c hc => ?_
  unfold escapeChar
  split
  · decide
  · decide
  · decide
  · rename_i hn
    simpa using isInline_of_ne (h c hc) hn

theorem escapeHelp_inline {help : List Char} (h : OneBreak help) :
    All isInline (escapeHelp help) := by
  refine all_flatMap fun c hc => ?_
  unfold escapeHelpChar
  split
  · decide
  · decide
  · rename_i hn
    simpa using isInline_of_ne (h c hc) hn

theorem escape_cons (c : Char) (value : List Char) :
    escape (c :: value) = escapeChar c ++ escape value := List.flatMap_cons

theorem quotedText_escape (value : List Char) : QuotedText (escape value) value := by
  induction value with
  | nil => exact .nil
  | cons c value ih =>
    rw [escape_cons]
    unfold escapeChar
    split
    · exact .backslash ih
    · exact .quote ih
    · exact .newline ih
    · rename_i hb hq _
      exact .plain hq hb ih

theorem readQuoted_escape (value rest : List Char) :
    readQuoted (escape value ++ '"' :: rest) = .ok (value, rest) :=
  readQuoted_iff.mpr ⟨_, quotedText_escape value, rfl⟩

theorem unescapeHelp_escapeHelp (help : List Char) : unescapeHelp (escapeHelp help) = help := by
  induction help with
  | nil => rfl
  | cons c help ih =>
    rw [escapeHelp, List.flatMap_cons, ← escapeHelp]
    unfold escapeHelpChar
    split
    · simp [unescapeHelp, ih]
    · simp [unescapeHelp, ih]
    · rename_i hb _
      rw [List.singleton_append, unescapeHelp, ih]
      · exact fun _ hc _ => hb hc
      · exact fun _ hc _ => hb hc

theorem timestampText_toString {t : Int} (h : InCalendar t) :
    TimestampText (toString t).toList (.utc (t * 1000)) := by
  have hlen : ∀ n : Nat, n < 10 ^ 15 → (Nat.toDigits 10 n).length ≤ 4300 := fun n hn =>
    Nat.le_trans ((Nat.length_toDigits_le_iff (by decide) (by decide)).mpr hn) (by decide)
  have hbounds := h
  unfold InCalendar Moment.firstMillis Moment.lastMillis at hbounds
  rw [Int.toString_eq_repr]
  cases t with
  | ofNat n =>
    simp only [Int.ofNat_eq_natCast] at hbounds
    have hc := @TimestampText.plain (Nat.toDigits 10 n) (all_isDigit_toDigits n)
      Nat.toDigits_ne_nil (hlen n (by omega)) (by rwa [digitsValue_toDigits])
    rw [digitsValue_toDigits] at hc
    simpa [Int.repr] using hc
  | negSucc n =>
    have hc := @TimestampText.minus (Nat.toDigits 10 (n + 1)) (all_isDigit_toDigits (n + 1))
      Nat.toDigits_ne_nil (hlen (n + 1) (by omega)) (by rwa [digitsValue_toDigits])
    rw [digitsValue_toDigits] at hc
    simpa [Int.repr, Int.negSucc_eq] using hc

theorem itemText_labelText {l : String × String}
    (hn : NameText isLabelStart isLabelChar l.1.toList) :
    ItemText (labelText l) (l.1.toList, l.2.toList) := by
  have h := ItemText.intro hn (all_nil : Space []) (all_nil : Space [])
    (quotedText_escape l.2.toList)
  simpa [labelText] using h

theorem itemsText_labels {labels : Labels} (hne : labels ≠ [])
    (hn : ∀ l ∈ labels, NameText isLabelStart isLabelChar l.1.toList) :
    ItemsText ([','].intercalate (labels.map labelText))
      (labels.map fun l => (l.1.toList, l.2.toList)) := by
  induction labels with
  | nil => exact absurd rfl hne
  | cons l labels ih =>
    obtain ⟨hl, hlabels⟩ := List.forall_mem_cons.mp hn
    have hitem := itemText_labelText hl
    cases labels with
    | nil => simpa using ItemsText.last (all_nil : Space []) hitem (all_nil : Space [])
    | cons m labels =>
      have hrest := ih (by simp) hlabels
      have h := ItemsText.next (all_nil : Space []) hitem (all_nil : Space []) hrest
      simpa [List.intercalate_cons_cons] using h

section Samples

variable {f : WrittenFamily} {s : WrittenSample}

theorem NameText.append {start part : Char → Bool} {name more : List Char}
    (hn : NameText start part name) (hm : All part more) : NameText start part (name ++ more) := by
  obtain ⟨hc, hcs⟩ := hn
  exact .intro hc (all_append.mpr ⟨hcs, hm⟩)

theorem suffixes_metricChars {kind : MetricKind} {suffix : String} (h : suffix ∈ kind.suffixes) :
    All isMetricChar suffix.toList := by
  have key : ∀ k : MetricKind, ∀ suffix ∈ k.suffixes, All isMetricChar suffix.toList := by
    intro k
    cases k <;> decide
  exact key kind suffix h

theorem WrittenSample.Valid.nameText (hf : f.Valid) (h : s.Valid f) :
    NameText isMetricStart isMetricChar s.name.toList := by
  rcases h.name with he | ⟨suffix, hs, he⟩
  · rw [he]
    exact hf.name
  · rw [he, String.toList_append]
    exact hf.name.append (suffixes_metricChars hs)

def WrittenSample.parts (s : WrittenSample) : SampleParts where
  name := s.name.toList
  labels := s.labels.map fun l => (l.1.toList, l.2.toList)
  value := s.value.toList
  timestamp := s.timestamp.map fun t => (toString t).toList

def fieldsText (s : WrittenSample) : List Char :=
  s.value.toList ++ s.timestamp.elim [] fun t => ' ' :: (toString t).toList

theorem WrittenSample.Valid.fieldsText (h : s.Valid f) {lead : List Char} (hl : All isBlank lead) :
    FieldsText (lead ++ Exposition.fieldsText s) s.value.toList s.parts.timestamp := by
  obtain ⟨x, hx⟩ := h.value
  unfold Exposition.fieldsText WrittenSample.parts
  cases ht : s.timestamp with
  | none => simpa using FieldsText.plain hl hx
  | some t =>
    have hblank : All isBlank [' '] := by decide
    have hstamp := timestampText_toString (h.timestamp t ht)
    simpa using FieldsText.stamped hl hx hblank (by simp) hstamp

theorem WrittenSample.Valid.sampleText (hf : f.Valid) (h : s.Valid f) :
    SampleText (sampleLine s) s.parts := by
  have hspace : Space [' '] := by decide
  have hline : sampleLine s =
      s.name.toList ++ (labelSetText s.labels ++ ' ' :: Exposition.fieldsText s) := by
    simp [sampleLine, Exposition.fieldsText]
  rw [hline]
  by_cases hne : s.labels = []
  · simpa [labelSetText, hne, WrittenSample.parts] using
      SampleText.bare (h.nameText hf) hspace (by simp) (h.fieldsText all_nil)
  · have hlist := itemsText_labels hne h.labelNames
    have hnames : ((s.labels.map fun l => (l.1.toList, l.2.toList)).map (·.1)).Nodup := by
      have hinj : Function.Injective String.toList := fun a b hab => String.toList_inj.mp hab
      simpa [Function.comp_def] using h.labelsDistinct.map hinj
    have hempty : s.labels.isEmpty = false := by simpa using hne
    have hblank : All isBlank [' '] := by decide
    simpa [labelSetText, hempty, WrittenSample.parts] using
      SampleText.braced (h.nameText hf) (all_nil : Space []) hlist hnames (h.fieldsText hblank)

theorem WrittenSample.Valid.names (h : s.Valid f) : ∃ x, NumberText s.value.toList x ∧
    s.parts.Names x (s.timestamp.map fun t => .utc (t * 1000)) := by
  obtain ⟨x, hx⟩ := h.value
  refine ⟨x, hx, hx, ?_⟩
  unfold WrittenSample.parts
  cases ht : s.timestamp with
  | none => exact .none
  | some t => exact .some (timestampText_toString (h.timestamp t ht))

theorem NameText.head {start part : Char → Bool} {name : List Char} (h : NameText start part name) :
    ∃ c cs, name = c :: cs ∧ start c = true := by
  obtain ⟨hc, -⟩ := h
  exact ⟨_, _, rfl, hc⟩

/-- A sample line ends in its last token. -/
theorem trimEnd_sampleLine (h : s.Valid f) : trimEnd (sampleLine s) = sampleLine s := by
  obtain ⟨x, hx⟩ := h.value
  unfold sampleLine
  cases ht : s.timestamp with
  | none =>
    rw [Option.elim_none, List.append_nil]
    exact trimEnd_append_eq_self hx.word.trimEnd hx.word.nonempty
  | some t =>
    have hw := (timestampText_toString (h.timestamp t ht)).word
    rw [Option.elim_some, List.append_cons]
    exact trimEnd_append_eq_self hw.trimEnd hw.nonempty

theorem readLine_sampleLine (hf : f.Valid) (h : s.Valid f) :
    ∃ p, readLine [] (sampleLine s) = .ok (.sample p) ∧ s.Means p := by
  obtain ⟨x, hx, hnames⟩ := h.names
  have htext := h.sampleText hf
  have hread := readSample_complete htext hnames []
  have hlabels : s.parts.labels.map label = s.labels := by
    simp [WrittenSample.parts, label, Function.comp_def]
  rw [withConstants_eq_append (by simpa using htext.names_nodup), hlabels, List.nil_append] at hread
  refine ⟨⟨s.name, s.labels, x, s.timestamp.map fun t => .utc (t * 1000)⟩, ?_, rfl, rfl, hx, rfl⟩
  obtain ⟨c, cs, hname, hc⟩ := (h.nameText hf).head
  obtain ⟨more, hmore⟩ : ∃ more, sampleLine s = c :: more := by
    simp [sampleLine, hname]
  have htrim : trim (sampleLine s) = sampleLine s := by
    have hend := trimEnd_sampleLine h
    rw [hmore] at hend ⊢
    simpa using trim_ink (isInk_of_isMetricChar (isMetricChar_of_isMetricStart hc)) hend all_nil
  rw [readLine_of_start htrim hmore hc, hread]
  simp [Except.map, WrittenSample.parts]

theorem labelText_inline {l : String × String} (hn : NameText isLabelStart isLabelChar l.1.toList)
    (hv : OneBreak l.2.toList) : All isInline (labelText l) := by
  have hname := labelName_inline hn
  have hmarks : All isInline ['=', '"'] ∧ All isInline ['"'] := by decide
  simp only [labelText, all_append]
  exact ⟨⟨⟨hname, hmarks.1⟩, escape_inline hv⟩, hmarks.2⟩

theorem all_intercalate {p : Char → Bool} {c : Char} (hc : p c = true) {ls : List (List Char)}
    (h : ∀ l ∈ ls, All p l) : All p ([c].intercalate ls) := by
  induction ls with
  | nil => simp
  | cons l ls ih =>
    obtain ⟨hl, hls⟩ := List.forall_mem_cons.mp h
    cases ls with
    | nil => simpa using hl
    | cons m ls => simpa [List.intercalate_cons_cons, hc, hl] using ih hls

theorem sampleLine_inline (hf : f.Valid) (h : s.Valid f) : All isInline (sampleLine s) := by
  obtain ⟨x, hx⟩ := h.value
  have hname := (metricName_word (h.nameText hf)).inline
  have hvalue := hx.word.inline
  have hlabels : All isInline (labelSetText s.labels) := by
    unfold labelSetText
    split
    · simp
    · have hmarks : All isInline ['{'] ∧ All isInline ['}'] := by decide
      simp only [all_append]
      refine ⟨⟨hmarks.1, all_intercalate (by decide) ?_⟩, hmarks.2⟩
      intro l hl
      obtain ⟨pair, hpair, rfl⟩ := List.mem_map.mp hl
      exact labelText_inline (h.labelNames pair hpair) (h.labelValues pair hpair)
  have hstamp : All isInline (s.timestamp.elim [] fun t => ' ' :: (toString t).toList) := by
    cases ht : s.timestamp with
    | none => simp
    | some t =>
      have hw := (timestampText_toString (h.timestamp t ht)).word
      exact all_cons.mpr ⟨by decide, hw.inline⟩
  have hspace : All isInline [' '] := by decide
  simp only [sampleLine, all_append]
  exact ⟨⟨⟨⟨hname, hlabels⟩, hspace⟩, hvalue⟩, hstamp⟩

end Samples

section Descriptions

variable {f : WrittenFamily}

theorem readLine_description (constants : Labels) {keyword : Keyword} {raw name tail : List Char}
    (hraw : trim raw = '#' :: ' ' :: (keyword.word.toList ++ ' ' :: (name ++ tail)))
    (hn : NameText isMetricStart isMetricChar name) (ht : Stops isInk tail) :
    readLine constants raw = .ok (describe keyword name (trimStart tail)) := by
  have hblank : All isBlank [' '] := by decide
  have htext := descriptionText_of_name keyword hblank hblank (List.cons_ne_nil _ _) hn ht
  exact DescriptionText.readLine (hraw ▸ htext) constants

theorem helpLine_eq (metric help : String) :
    helpLine metric help = helpLine metric "" ++ escapeHelp help.toList := by
  simp [helpLine, escapeHelp]

/-- Blanks at the end of a HELP line are not part of its text. -/
theorem readLine_helpText (constants : Labels) {metric : String} {core blanks : List Char}
    (hm : NameText isMetricStart isMetricChar metric.toList) (hcore : trimEnd core = core)
    (hb : All isBlank blanks) :
    readLine constants (helpLine metric "" ++ (core ++ blanks)) =
      .ok (.help metric (String.ofList (unescapeHelp (trim core)))) := by
  have hhash : isInk '#' = true := by decide
  have hword := metricName_word hm
  have hline : helpLine metric "" ++ (core ++ blanks) = '#' :: ' ' :: (Keyword.help.word.toList ++
      ' ' :: (metric.toList ++ ' ' :: (core ++ blanks))) := by
    simp [helpLine, Keyword.word, escapeHelp]
  have htext : trim core = trimStart core := trimEnd_trimStart hcore
  by_cases hne : core = []
  · have hend : trimEnd ('#' :: ' ' :: (Keyword.help.word.toList ++ ' ' :: metric.toList)) =
        '#' :: ' ' :: (Keyword.help.word.toList ++ ' ' :: metric.toList) := by
      simpa using @trimEnd_append_eq_self ('#' :: ' ' :: (Keyword.help.word.toList ++ [' '])) _
        hword.trimEnd hword.nonempty
    have hspace : All isBlank (' ' :: blanks) := all_cons.mpr ⟨by decide, hb⟩
    have htrim : trim (helpLine metric "" ++ (core ++ blanks)) =
        '#' :: ' ' :: (Keyword.help.word.toList ++ ' ' :: (metric.toList ++ [])) := by
      rw [hline, hne]
      simpa using trim_ink hhash hend hspace
    rw [readLine_description constants htrim hm stops_nil, htext, hne]
    simp [describe]
  · have hend : trimEnd ('#' :: ' ' :: (Keyword.help.word.toList ++
        ' ' :: (metric.toList ++ ' ' :: core))) =
        '#' :: ' ' :: (Keyword.help.word.toList ++ ' ' :: (metric.toList ++ ' ' :: core)) := by
      simpa using @trimEnd_append_eq_self ('#' :: ' ' :: (Keyword.help.word.toList ++
        ' ' :: (metric.toList ++ [' ']))) _ hcore hne
    have htrim : trim (helpLine metric "" ++ (core ++ blanks)) =
        '#' :: ' ' :: (Keyword.help.word.toList ++ ' ' :: (metric.toList ++ ' ' :: core)) := by
      rw [hline]
      simpa using trim_ink hhash hend hb
    rw [readLine_description constants htrim hm (stops_cons.mpr (by decide)),
      trimStart_blank (by decide), htext]
    simp [describe]

theorem readLine_helpLine (constants : Labels) (hf : f.Valid) :
    readLine constants (helpLine f.name f.help) = .ok (.help f.name f.help) := by
  have hread := readLine_helpText constants hf.name (trimEnd_of_trim hf.help) all_nil
  rw [List.append_nil, ← helpLine_eq, hf.help, unescapeHelp_escapeHelp, String.ofList_toList]
    at hread
  exact hread

theorem kindName_word (kind : MetricKind) : Word kind.name.toList := by
  cases kind
  all_goals exact ⟨by decide, by decide⟩

theorem readLine_kindLine (constants : Labels) (hf : f.Valid) :
    readLine constants (kindLine f.name f.kind) =
      .ok (.kind f.name (some f.kind.name.toList)) := by
  have hhash : isInk '#' = true := by decide
  have hkind := kindName_word f.kind
  have hline : kindLine f.name f.kind = '#' :: ' ' :: (Keyword.type.word.toList ++
      ' ' :: (f.name.toList ++ ' ' :: f.kind.name.toList)) := by
    simp [kindLine, Keyword.word]
  have hend : trimEnd (kindLine f.name f.kind) = kindLine f.name f.kind :=
    trimEnd_append_eq_self hkind.trimEnd hkind.nonempty
  have htrim : trim (kindLine f.name f.kind) = kindLine f.name f.kind := by
    rw [hline] at hend ⊢
    simpa using trim_ink hhash hend all_nil
  rw [readLine_description constants (htrim.trans hline) hf.name (stops_cons.mpr (by decide)),
    trimStart_blank (by decide)]
  have htext : trimStart f.kind.name.toList = f.kind.name.toList ∧
      trim f.kind.name.toList = f.kind.name.toList := by
    cases f.kind <;> decide
  have hne : f.kind.name.toList.isEmpty = false := by simpa using hkind.nonempty
  simp [describe, htext, hne]

theorem descriptions_inline (hf : f.Valid) :
    All isInline (helpLine f.name f.help) ∧ All isInline (kindLine f.name f.kind) := by
  have hname := (metricName_word hf.name).inline
  have hkind := (kindName_word f.kind).inline
  have hmarks : All isInline ['#', ' ', 'H', 'E', 'L', 'P', ' '] ∧
      All isInline ['#', ' ', 'T', 'Y', 'P', 'E', ' '] ∧ All isInline [' '] := by decide
  simp only [helpLine, kindLine, all_append]
  exact ⟨⟨⟨⟨hmarks.1, hname⟩, hmarks.2.2⟩, escapeHelp_inline hf.helpBreaks⟩,
    ⟨⟨hmarks.2.1, hname⟩, hmarks.2.2⟩, hkind⟩

end Descriptions

end MetricArchive.Exposition
