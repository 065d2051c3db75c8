import Mathlib.Data.List.Nodup
import MetricArchive.Exposition.Line
import MetricArchive.Proofs.Exposition.LabelGrammar
import MetricArchive.Proofs.Exposition.NumberGrammar

/-!
# The grammar of sample lines

A metric name, perhaps a braced label list, a value and perhaps a timestamp. Main statement: of the
trimmed lines exactly those of the grammar are read as samples; a line has one derivation, and the
sample is what that derivation says.
-/
namespace MetricArchive.Exposition

open Text

structure SampleParts where
  name : List Char
  labels : List (List Char × List Char)
  value : List Char
  timestamp : Option (List Char)
  deriving DecidableEq, Repr

/-- A value and perhaps a timestamp, each after blanks. -/
inductive FieldsText : List Char → List Char → Option (List Char) → Prop where
  | plain {lead value : List Char} {x : Binary64} (hl : All isBlank lead)
    (hv : NumberText value x) : FieldsText (lead ++ value) value none
  | stamped {lead value gap stamp : List Char} {x : Binary64} {m : Moment}
    (hl : All isBlank lead) (hv : NumberText value x) (hg : All isBlank gap) (hne : gap ≠ [])
    (ht : TimestampText stamp m) :
    FieldsText (lead ++ (value ++ (gap ++ stamp))) value (some stamp)

inductive SampleText : List Char → SampleParts → Prop where
  /-- Without labels the name ends at a space or tab. -/
  | bare {name gap fields value : List Char} {timestamp : Option (List Char)}
    (hn : NameText isMetricStart isMetricChar name) (hg : Space gap) (hne : gap ≠ [])
    (hf : FieldsText fields value timestamp) :
    SampleText (name ++ (gap ++ fields)) ⟨name, [], value, timestamp⟩
  | braced {name gap list fields value : List Char} {labels : List (List Char × List Char)}
    {timestamp : Option (List Char)} (hn : NameText isMetricStart isMetricChar name)
    (hg : Space gap) (hl : ItemsText list labels) (hd : (labels.map (·.1)).Nodup)
    (hf : FieldsText fields value timestamp) :
    SampleText (name ++ (gap ++ '{' :: (list ++ '}' :: fields))) ⟨name, labels, value, timestamp⟩

/-- A line up to its fields: the name, the labels and what comes after them. -/
inductive HeadText : List Char → List Char → List (List Char × List Char) → List Char → Prop where
  | bare {name gap tail : List Char} (hn : NameText isMetricStart isMetricChar name)
    (hg : Space gap) (hne : gap ≠ []) : HeadText (name ++ (gap ++ tail)) name [] tail
  | braced {name gap list tail : List Char} {labels : List (List Char × List Char)}
    (hn : NameText isMetricStart isMetricChar name) (hg : Space gap) (hl : ItemsText list labels)
    (hd : (labels.map (·.1)).Nodup) :
    HeadText (name ++ (gap ++ '{' :: (list ++ '}' :: tail))) name labels tail

structure SampleParts.Names (p : SampleParts) (x : Binary64) (t : Option Moment) : Prop where
  value : NumberText p.value x
  timestamp : Option.Rel TimestampText p.timestamp t

section Fields

variable {name tail value : List Char} {stamp : Option (List Char)} {x : Binary64}
  {t : Option Moment}

theorem isBlank_of_isSpaceOrTab {c : Char} (h : isSpaceOrTab c = true) : isBlank c = true := by
  simp only [isSpaceOrTab, Bool.or_eq_true, beq_iff_eq] at h
  rcases h with rfl | rfl <;> decide

theorem words_skipSpace (cs : List Char) : words (skipSpace cs) = words cs := by
  obtain ⟨space, hs, hcs⟩ := exists_space cs
  rw [hcs, words_blanks (hs.imp fun _ => isBlank_of_isSpaceOrTab), ← hcs]

theorem words_single {w : List Char} (hw : Word w) : words w = [w] := by
  simpa [words] using words_word hw stops_nil

theorem FieldsText.words (h : FieldsText tail value stamp) :
    words tail = value :: stamp.toList := by
  cases h with
  | plain hl hv => rw [words_blanks hl, words_single hv.word, Option.toList_none]
  | stamped hl hv hg hne ht =>
    rename_i lead gap token _ _
    rw [words_blanks hl, words_word hv.word (stops_blanks hg hne token), words_blanks hg,
      words_single ht.word, Option.toList_some]

theorem readFields_complete (hv : NumberText value x) (ht : Option.Rel TimestampText stamp t) :
    readFields name (value :: stamp.toList) = .ok (x, t) := by
  cases ht with
  | none => simp [readFields, hv.readValue, Except.map]
  | some ht => simp [readFields, hv.readValue, readTimestamp_iff.mpr ht, bind, Except.bind, pure,
      Except.pure]

theorem readFields_sound {fields : List (List Char)} (h : readFields name fields = .ok (x, t)) :
    ∃ value stamp, fields = value :: stamp.toList ∧ NumberText value x ∧
      Option.Rel TimestampText stamp t := by
  unfold readFields at h
  split at h
  · cases h
  · rename_i value
    rcases hv : readValue value with e | y
    · simp [hv, Except.map] at h
    · simp only [hv, Except.map, Except.ok.injEq, Prod.mk.injEq] at h
      obtain ⟨rfl, rfl⟩ := h
      exact ⟨value, none, rfl, readValue_iff.mp hv, .none⟩
  · rename_i value stamp
    rcases hv : readValue value with e | y
    · simp [hv, bind, Except.bind] at h
    · rcases hm : readTimestamp stamp with e | m
      · simp [hv, hm, bind, Except.bind] at h
      · simp only [hv, hm, bind, Except.bind, pure, Except.pure, Except.ok.injEq,
          Prod.mk.injEq] at h
        obtain ⟨rfl, rfl⟩ := h
        exact ⟨value, some stamp, rfl, readValue_iff.mp hv, .some (readTimestamp_iff.mp hm)⟩
  · cases h

/-- The last word of a line that does not end in blanks ends the line. -/
theorem words_eq_singleton {front w : List Char} (h : words tail = [w])
    (hend : trimEnd (front ++ tail) = front ++ tail) :
    ∃ lead, tail = lead ++ w ∧ All isBlank lead ∧ Word w := by
  obtain ⟨lead, rest, rfl, hl, hw, -, hrest⟩ := words_eq_cons h
  rw [← List.append_assoc] at hend
  have hnil := eq_nil_of_trimEnd hend (words_eq_nil.mp hrest)
  exact ⟨lead, by rw [hnil, List.append_nil], hl, hw⟩

theorem fieldsText_of_words {front : List Char} (hend : trimEnd (front ++ tail) = front ++ tail)
    (h : words tail = value :: stamp.toList) (hv : NumberText value x)
    (ht : Option.Rel TimestampText stamp t) : FieldsText tail value stamp := by
  cases ht with
  | none =>
    obtain ⟨lead, rfl, hl, -⟩ := words_eq_singleton h hend
    exact .plain hl hv
  | some ht =>
    obtain ⟨lead, rest, rfl, hl, -, hstop, hrest⟩ := words_eq_cons h
    rw [← List.append_assoc] at hend
    obtain ⟨gap, rfl, hg, hw⟩ := words_eq_singleton hrest hend
    rw [List.append_assoc]
    refine .stamped hl hv hg ?_ ht
    rintro rfl
    obtain ⟨hne, hink⟩ := hw
    rename_i stamp _
    cases stamp with
    | nil => exact hne rfl
    | cons c stamp => simp_all

end Fields

theorem freshName_eq {taken : List String} {name : String} (h : name ∉ taken) (n : Nat) :
    freshName taken n name = name := by
  cases n with
  | zero => rfl
  | succ n => simp [freshName, h]

/-- Labels with names of their own stay as they are. -/
theorem withConstants_eq_append {constants scraped : Labels}
    (h : ((constants ++ scraped).map (·.1)).Nodup) :
    withConstants constants scraped = constants ++ scraped := by
  unfold withConstants
  induction scraped generalizing constants with
  | nil => simp
  | cons l scraped ih =>
    obtain ⟨name, value⟩ := l
    have hnew : name ∉ constants.map (·.1) := not_mem_of_names h
    simp only [List.foldl_cons, freshName_eq hnew]
    rw [ih (by simpa using h)]
    simp

theorem label_injective : Function.Injective label := by
  rintro ⟨a, b⟩ ⟨c, d⟩ h
  simpa [label, String.ofList_inj] using h

theorem label_names (items : List (List Char × List Char)) :
    ((items.map label).map (·.1)).Nodup ↔ (items.map (·.1)).Nodup := by
  have hnames : (items.map label).map (·.1) = (items.map (·.1)).map String.ofList := by
    simp [label, Function.comp_def]
  rw [hnames, List.nodup_map_iff]
  exact fun a b h => String.ofList_inj.mp h

section Lines

variable {line name rest : List Char} {p : SampleParts} {x : Binary64} {t : Option Moment}

/-- No token with a brace in front comes first. -/
theorem skipSpace_ne_brace {tail w : List Char} {ws : List (List Char)} (h : words tail = w :: ws)
    (hw : All (· != '{') w) : ∀ body, skipSpace tail ≠ '{' :: body := by
  intro body hbrace
  rw [← words_skipSpace, hbrace] at h
  obtain ⟨lead, rest, htext, hl, hword, -, -⟩ := words_eq_cons h
  cases lead with
  | cons c lead =>
    obtain ⟨rfl, -⟩ := List.cons.inj htext
    exact absurd (all_cons.mp hl).1 (by decide)
  | nil =>
    cases w with
    | nil => exact hword.nonempty rfl
    | cons c w =>
      obtain ⟨rfl, -⟩ := List.cons.inj htext
      exact absurd (all_cons.mp hw).1 (by decide)

/-- No value starts with a brace, so a brace after the name opens a label list. -/
theorem FieldsText.no_brace {fields value : List Char} {stamp : Option (List Char)}
    (h : FieldsText fields value stamp) : ∀ body, skipSpace fields ≠ '{' :: body := by
  refine skipSpace_ne_brace h.words ?_
  cases h with
  | plain _ hv => exact hv.no_brace
  | stamped _ hv => exact hv.no_brace

section Heads

variable {items : List (List Char × List Char)} {tail : List Char}

/-- The readers find the head of a line. -/
theorem HeadText.read (h : HeadText line name items tail)
    (hb : ∀ body, skipSpace tail ≠ '{' :: body) :
    ∃ rest, cutName isMetricStart isMetricChar line = some (name, rest) ∧
      readAfterName line rest = .ok (items.map label, words tail) := by
  cases h with
  | @bare _ gap _ hn hg hne =>
    refine ⟨_, cutName_iff.mpr ⟨rfl, hn, ?_⟩, ?_⟩
    · exact stops_of_space hg (by decide) (by decide) fun hnil => absurd hnil hne
    · have hskip : skipSpace (gap ++ tail) = skipSpace tail := List.dropWhile_append_of_pos hg
      unfold readAfterName
      split
      · rename_i body hbody
        exact absurd (hskip ▸ hbody) (hb body)
      · rw [if_neg, hskip, words_skipSpace, List.map_nil]
        cases gap with
        | nil => exact absurd rfl hne
        | cons c gap => simp [(all_cons.mp hg).1]
  | @braced _ gap list _ _ hn hg hl hd =>
    refine ⟨_, cutName_iff.mpr ⟨rfl, hn, ?_⟩, ?_⟩
    · exact stops_of_space hg (by decide) (by decide) fun _ => stops_cons.mpr (by decide)
    · have hskip := skipSpace_append hg
        (stops_cons.mpr (by decide) : Stops isSpaceOrTab ('{' :: (list ++ '}' :: tail)))
      have hread (line : List Char) :
          readLabels line [] (list ++ '}' :: tail) = .ok (items.map label, tail) :=
        readLabels_iff.mpr ⟨list, items, hl, rfl, rfl, (label_names items).mpr hd⟩
      simp only [readAfterName, hskip, hread, Except.map]

/-- What the readers take for the head of a line is its head, provided that something follows. -/
theorem headText_of_readAfterName {labels : Labels} {fields : List (List Char)}
    (hn : NameText isMetricStart isMetricChar name)
    (h : readAfterName line rest = .ok (labels, fields)) (hne : fields ≠ []) :
    ∃ items tail, HeadText (name ++ rest) name items tail ∧ labels = items.map label ∧
      fields = words tail := by
  obtain ⟨gap, hg, hrest⟩ := exists_space rest
  unfold readAfterName at h
  split at h
  · rename_i body hbrace
    rcases hread : readLabels line [] body with e | ⟨found, tail⟩
    · simp [hread, Except.map] at h
    · simp only [hread, Except.map, Except.ok.injEq, Prod.mk.injEq] at h
      obtain ⟨rfl, rfl⟩ := h
      obtain ⟨list, items, hl, rfl, rfl, hd⟩ := readLabels_iff.mp hread
      rw [hrest, hbrace]
      exact ⟨items, tail, .braced hn hg hl ((label_names items).mp hd), rfl, rfl⟩
  · split at h
    · cases h
    · rename_i hspace
      simp only [Except.ok.injEq, Prod.mk.injEq] at h
      obtain ⟨rfl, rfl⟩ := h
      refine ⟨[], skipSpace rest, ?_, rfl, rfl⟩
      -- the name does not end at a character that is neither space nor tab
      have hgap : gap ≠ [] := by
        rintro rfl
        have hstop : Stops isSpaceOrTab rest := by
          rw [hrest]
          exact stops_dropWhile _ _
        cases rest with
        | nil => simp [skipSpace, words] at hne
        | cons c rest =>
          have hc := stops_cons.mp hstop
          simp [hc] at hspace
      have hhead := @HeadText.bare name gap (skipSpace rest) hn hg hgap
      rwa [← hrest] at hhead

theorem HeadText.sampleText {value : List Char} {stamp : Option (List Char)}
    (h : HeadText line name items tail) (hf : FieldsText tail value stamp) :
    SampleText line ⟨name, items, value, stamp⟩ := by
  cases h with
  | bare hn hg hne => exact .bare hn hg hne hf
  | braced hn hg hl hd => exact .braced hn hg hl hd hf

theorem HeadText.exists_front (h : HeadText line name items tail) :
    ∃ front, line = front ++ tail := by
  cases h with
  | @bare _ gap => exact ⟨name ++ gap, by simp⟩
  | @braced _ gap list => exact ⟨name ++ (gap ++ '{' :: (list ++ ['}'])), by simp⟩

end Heads

theorem SampleText.exists_head (h : SampleText line p) :
    ∃ tail, HeadText line p.name p.labels tail ∧ FieldsText tail p.value p.timestamp := by
  cases h with
  | bare hn hg hne hf => exact ⟨_, .bare hn hg hne, hf⟩
  | braced hn hg hl hd hf => exact ⟨_, .braced hn hg hl hd, hf⟩

/-- The readers find the parts of a derivation. -/
theorem SampleText.read (h : SampleText line p) :
    ∃ rest, cutName isMetricStart isMetricChar line = some (p.name, rest) ∧
      readAfterName line rest = .ok (p.labels.map label, p.value :: p.timestamp.toList) := by
  obtain ⟨tail, hhead, hf⟩ := h.exists_head
  rw [← hf.words]
  exact hhead.read hf.no_brace

theorem SampleText.names_nodup (h : SampleText line p) :
    ((p.labels.map label).map (·.1)).Nodup := by
  rw [label_names]
  cases h with
  | bare => simp
  | braced hn hg hl hd hf => exact hd

theorem readSample_complete (h : SampleText line p) (hp : p.Names x t) (constants : Labels) :
    readSample constants line =
      .ok ⟨String.ofList p.name, withConstants constants (p.labels.map label), x, t⟩ := by
  obtain ⟨rest, hcut, hafter⟩ := h.read
  have hfields : readFields p.name (p.value :: p.timestamp.toList) = .ok (x, t) :=
    readFields_complete hp.value hp.timestamp
  simp [readSample, hcut, hafter, hfields, bind, Except.bind, pure, Except.pure]

/-- A sample that is read has a derivation. -/
theorem readSample_sound (hend : trimEnd line = line) {constants : Labels} {s : Sample}
    (h : readSample constants line = .ok s) :
    ∃ p, SampleText line p ∧ p.Names s.value s.timestamp := by
  unfold readSample at h
  split at h
  · cases h
  · rename_i name rest hcut
    obtain ⟨rfl, hn, -⟩ := cutName_iff.mp hcut
    rcases hafter : readAfterName (name ++ rest) rest with e | ⟨scraped, fields⟩
    · simp [hafter, bind, Except.bind] at h
    · rcases hfields : readFields name fields with e | ⟨x, t⟩
      · simp [hafter, hfields, bind, Except.bind] at h
      · simp only [hafter, hfields, bind, Except.bind, pure, Except.pure, Except.ok.injEq] at h
        subst h
        obtain ⟨value, stamp, rfl, hv, ht⟩ := readFields_sound hfields
        obtain ⟨items, tail, hhead, -, hwords⟩ := headText_of_readAfterName hn hafter (by simp)
        obtain ⟨front, hfront⟩ := hhead.exists_front
        rw [hfront] at hend
        exact ⟨_, hhead.sampleText (fieldsText_of_words hend hwords.symm hv ht), hv, ht⟩

/-- A line has one derivation. -/
theorem SampleText.unique {q : SampleParts} (hp : SampleText line p) (hq : SampleText line q) :
    p = q := by
  obtain ⟨rest, hcut, hafter⟩ := hp.read
  obtain ⟨rest', hcut', hafter'⟩ := hq.read
  rw [hcut'] at hcut
  obtain ⟨hname, rfl⟩ := Prod.mk.inj (Option.some.inj hcut)
  rw [hafter'] at hafter
  obtain ⟨hlabels, hfields⟩ := Prod.mk.inj (Except.ok.inj hafter)
  obtain ⟨hvalue, hstamp⟩ := List.cons.inj hfields
  obtain ⟨name, labels, value, stamp⟩ := p
  obtain ⟨name', labels', value', stamp'⟩ := q
  simp only at hname hlabels hvalue hstamp
  have hstamp : stamp' = stamp := by
    cases stamp <;> cases stamp' <;> simp_all
  have hlabels := label_injective.list_map hlabels
  simp_all

theorem SampleText.exists_names (h : SampleText line p) : ∃ x t, p.Names x t := by
  cases h with
  | bare _ _ _ hf =>
    cases hf with
    | plain _ hv => exact ⟨_, none, hv, .none⟩
    | stamped _ hv _ _ ht => exact ⟨_, some _, hv, .some ht⟩
  | braced _ _ _ _ hf =>
    cases hf with
    | plain _ hv => exact ⟨_, none, hv, .none⟩
    | stamped _ hv _ _ ht => exact ⟨_, some _, hv, .some ht⟩

/-- A trimmed line is read as a sample exactly if the grammar derives it, and then as the sample
that its only derivation says. -/
theorem readSample_iff (h : trim line = line) :
    (∀ s, readSample [] line = .ok s ↔ ∃ p, SampleText line p ∧
      p.Names s.value s.timestamp ∧ s.name = String.ofList p.name ∧ s.labels = p.labels.map label) ∧
    (∀ constants, (∃ s, readSample constants line = .ok s) ↔ ∃ p, SampleText line p) ∧
    ∀ p q, SampleText line p → SampleText line q → p = q := by
  have hend := trimEnd_of_trim h
  refine ⟨fun s => ⟨fun hs => ?_, ?_⟩, fun constants => ⟨?_, ?_⟩, fun _ _ => SampleText.unique⟩
  · obtain ⟨p, hp, hnames⟩ := readSample_sound hend hs
    have hread := readSample_complete hp hnames []
    rw [withConstants_eq_append (by simpa using hp.names_nodup), hs] at hread
    have hsample := Except.ok.inj hread
    exact ⟨p, hp, hnames, congrArg Sample.name hsample, congrArg Sample.labels hsample⟩
  · rintro ⟨p, hp, hnames, hname, hlabels⟩
    rw [readSample_complete hp hnames, withConstants_eq_append (by simpa using hp.names_nodup),
      ← hname, List.nil_append, ← hlabels]
  · rintro ⟨s, hs⟩
    obtain ⟨p, hp, -⟩ := readSample_sound hend hs
    exact ⟨p, hp⟩
  · rintro ⟨p, hp⟩
    obtain ⟨x, t, hnames⟩ := hp.exists_names
    exact ⟨_, readSample_complete hp hnames constants⟩

/-- A comma may end the list, and no blank need follow it. -/
theorem readSample_iff_trailing_comma :
    trim ['x', '{', 'a', '=', '"', '1', '"', ',', '}', '2'] =
        ['x', '{', 'a', '=', '"', '1', '"', ',', '}', '2'] ∧
      readSample [] ['x', '{', 'a', '=', '"', '1', '"', ',', '}', '2'] =
        .ok ⟨"x", [("a", "1")], .ofDecimal false 2 0, none⟩ := by
  have hitem : ItemText ['a', '=', '"', '1', '"'] (['a'], ['1']) :=
    .intro (.intro (by decide) all_nil) all_nil all_nil (.plain (by decide) (by decide) .nil)
  have htwo : NumberText ['2'] (.ofDecimal false 2 0) :=
    .decimal .absent (@MantissaText.whole ['2'] (by decide) (by decide)) .absent
  refine ⟨by decide, ((readSample_iff (by decide)).1 _).mpr
    ⟨⟨['x'], [(['a'], ['1'])], ['2'], none⟩, ?_, ⟨htwo, .none⟩, rfl, rfl⟩⟩
  exact .braced (.intro (by decide) all_nil) all_nil (.next all_nil hitem all_nil (.none all_nil))
    (by decide) (.plain all_nil htwo)

-- a no-break space ends no name
example : readSample [] ['x', '\u00a0', '1'] = .error (.fault .invalidMetricName ['x']) := rfl

-- a comma needs an item before it
example : readSample [] ['x', '{', ',', '}', '1'] =
    .error (.fault .invalidLabelName [',', '}', '1']) := by cbv

end Lines

end MetricArchive.Exposition
