import MetricArchive.Exposition.Line
import MetricArchive.Proofs.Exposition.LabelGrammar
import MetricArchive.Proofs.Text.Lines

/-!
# The grammar of HELP and TYPE lines

A number sign, a keyword, a metric name and perhaps a text, with blanks between them. Main
statement: the lines of the grammar are exactly those that are read as the description of a metric;
a line has one derivation, and the description is what that derivation says.
-/
namespace MetricArchive.Exposition

open Text

/-- A trimmed line that describes a metric, with the metric's name and the text. -/
inductive DescriptionText (keyword : Keyword) : List Char → List Char → List Char → Prop where
  | intro {lead gap name between text : List Char} (hl : All isBlank lead) (hg : All isBlank gap)
    (hne : gap ≠ []) (hn : NameText isMetricStart isMetricChar name) (hb : All isBlank between)
    (hs : between = [] → text = []) (ht : Stops isBlank text) :
    DescriptionText keyword
      ('#' :: (lead ++ (keyword.word.toList ++ (gap ++ (name ++ (between ++ text)))))) name text

theorem isInk_of_isMetricChar {c : Char} (h : isMetricChar c = true) : isInk c = true := by
  simp only [isMetricChar, isMetricStart, isLabelStart, isLetter, isAsciiDigit, Bool.or_eq_true,
    Bool.and_eq_true, decide_eq_true_eq, beq_iff_eq, Char.le_def, UInt32.le_iff_toNat_le] at h
  rcases h with (((⟨hlo, hhi⟩ | ⟨hlo, hhi⟩) | rfl) | rfl) | ⟨hlo, hhi⟩
  · exact isInk_of_range (Nat.le_trans (by decide) hlo) (Nat.le_trans hhi (by decide))
  · exact isInk_of_range (Nat.le_trans (by decide) hlo) (Nat.le_trans hhi (by decide))
  · decide
  · decide
  · exact isInk_of_range (Nat.le_trans (by decide) hlo) (Nat.le_trans hhi (by decide))

theorem isMetricChar_of_isMetricStart {c : Char} (h : isMetricStart c = true) :
    isMetricChar c = true := by
  simp [isMetricChar, h]

theorem NameText.all {start part p : Char → Bool} {name : List Char} (h : NameText start part name)
    (hs : ∀ c, start c = true → p c = true) (hp : ∀ c, part c = true → p c = true) :
    All p name := by
  obtain ⟨hc, hcs⟩ := h
  exact all_cons.mpr ⟨hs _ hc, hcs.imp hp⟩

theorem metricName_word {name : List Char} (h : NameText isMetricStart isMetricChar name) :
    Word name where
  nonempty := by
    obtain ⟨-, -⟩ := h
    simp
  ink := h.all (fun _ hc => isInk_of_isMetricChar (isMetricChar_of_isMetricStart hc))
    fun _ => isInk_of_isMetricChar

theorem isName_iff {start part : Char → Bool} {name : List Char} :
    isName start part name = true ↔ NameText start part name := by
  unfold isName
  constructor
  · intro h
    split at h
    · rename_i cut hcut
      obtain ⟨hname, htext, -⟩ := cutName_iff.mp hcut
      rwa [hname, List.append_nil]
    · cases h
  · intro h
    have hcut := cutName_iff.mpr ⟨(List.append_nil name).symm, h, stops_nil⟩
    simp [hcut]

theorem keyword_word (keyword : Keyword) : Word keyword.word.toList := by
  cases keyword
  all_goals exact ⟨by decide, by decide⟩

theorem keyword?_iff {word : List Char} {keyword : Keyword} :
    keyword? word = some keyword ↔ word = keyword.word.toList := by
  constructor
  · intro h
    unfold keyword? at h
    split_ifs at h with hhelp htype
    · cases h
      exact beq_iff_eq.mp hhelp
    · cases h
      exact beq_iff_eq.mp htype
  · rintro rfl
    cases keyword <;> rfl

section Descriptions

variable {keyword keyword' : Keyword} {line raw name name' text text' : List Char}
  {content : LineContent} {constants : Labels}

/-- A name that a keyword and blanks stand before, with anything after it but more of the name. -/
theorem descriptionText_of_name (keyword : Keyword) {lead gap tail : List Char}
    (hl : All isBlank lead) (hg : All isBlank gap) (hne : gap ≠ [])
    (hn : NameText isMetricStart isMetricChar name) (ht : Stops isInk tail) :
    DescriptionText keyword ('#' :: (lead ++ (keyword.word.toList ++ (gap ++ (name ++ tail)))))
      name (trimStart tail) := by
  obtain ⟨between, text, rfl, hb, hstop⟩ := exists_run isBlank tail
  have htext : trimStart (between ++ text) = text := dropWhile_run hb hstop
  rw [htext]
  refine .intro hl hg hne hn hb (fun hnil => ?_) hstop
  cases text with
  | nil => rfl
  | cons c text =>
    have hblank := stops_cons.mp hstop
    simp [hnil, isInk, hblank] at ht

namespace DescriptionText

/-- The words of a line, cut off one after the other. -/
theorem cut (h : DescriptionText keyword line name text) :
    NameText isMetricStart isMetricChar name ∧ ∃ body rest tail, line = '#' :: body ∧
      cutWord body = (keyword.word.toList, rest) ∧ cutWord rest = (name, tail) ∧
      trimStart tail = text := by
  cases h with
  | @intro lead gap _ between _ hl hg hne hn hb hs ht =>
    have htail : Stops isInk (between ++ text) := by
      by_cases hnil : between = []
      · simp [hnil, hs hnil]
      · exact stops_blanks hb hnil text
    have hgap := stops_blanks hg hne (name ++ (between ++ text))
    exact ⟨hn, _, _, _, rfl, cutWord_word hl (keyword_word keyword) hgap,
      cutWord_word hg (metricName_word hn) htail, dropWhile_run hb ht⟩

theorem unique (h : DescriptionText keyword line name text)
    (h' : DescriptionText keyword' line name' text') :
    keyword = keyword' ∧ name = name' ∧ text = text' := by
  obtain ⟨-, body, rest, tail, rfl, hword, hname, rfl⟩ := h.cut
  obtain ⟨-, _, _, _, hbody, hword', hname', rfl⟩ := h'.cut
  cases hbody
  obtain ⟨hkeyword, rfl⟩ := Prod.mk.inj (hword.symm.trans hword')
  obtain ⟨rfl, rfl⟩ := Prod.mk.inj (hname.symm.trans hname')
  have hsame := (keyword?_iff.mpr rfl).symm.trans (keyword?_iff.mpr hkeyword)
  exact ⟨Option.some.inj hsame, rfl, rfl⟩

theorem readComment (h : DescriptionText keyword line name text) : ∃ body, line = '#' :: body ∧
    Exposition.readComment line body = .ok (describe keyword name text) := by
  obtain ⟨hn, body, rest, tail, rfl, hword, hname, rfl⟩ := h.cut
  have hkeyword := keyword?_iff.mpr (rfl : keyword.word.toList = keyword.word.toList)
  have hne : name.isEmpty = false := by simpa using (metricName_word hn).nonempty
  refine ⟨body, rfl, ?_⟩
  simp [Exposition.readComment, hword, hname, hkeyword, hne, isName_iff.mpr hn]

theorem readLine (h : DescriptionText keyword (trim raw) name text) (constants : Labels) :
    Exposition.readLine constants raw = .ok (describe keyword name text) := by
  obtain ⟨body, hraw, hread⟩ := h.readComment
  rw [hraw] at hread
  simp only [Exposition.readLine, hraw, hread]

/-- The text of a trimmed line ends in no blank. -/
theorem trim_text (h : DescriptionText keyword (trim raw) name text) : trim text = text := by
  have hstop : Stops isBlank (trim raw).reverse := stops_trimEnd _
  generalize trim raw = line at h hstop
  cases h with
  | @intro lead gap _ between _ hl hg hne hn hb hs ht =>
    have hstart : trimStart text = text := @dropWhile_run isBlank [] text all_nil ht
    rw [trim, hstart, trimEnd_eq_self]
    rcases List.eq_nil_or_concat' text with rfl | ⟨text, c, rfl⟩
    · exact stops_nil
    · simpa using hstop

end DescriptionText

theorem descriptionText_of_readComment {body : List Char}
    (h : readComment ('#' :: body) body = .ok content) (hne : content ≠ .nothing) :
    ∃ keyword name text, DescriptionText keyword ('#' :: body) name text ∧
      content = describe keyword name text := by
  obtain ⟨lead, hbody, hl, -, hstop⟩ := exists_cutWord body
  unfold readComment at h
  generalize cutWord body = first at h hbody hstop
  obtain ⟨word, rest⟩ := first
  obtain ⟨gap, hrest, hg, hink, htail⟩ := exists_cutWord rest
  simp only at h hbody hstop
  generalize cutWord rest = second at h hrest hink htail
  obtain ⟨name, tail⟩ := second
  simp only at h hrest hink htail
  split at h
  · cases h
    exact absurd rfl hne
  · rename_i keyword hkeyword
    split_ifs at h with hempty hname
    · cases h
      have hn := isName_iff.mp hname
      have hgap : gap ≠ [] := by
        rintro rfl
        obtain ⟨c, name, rfl⟩ := List.exists_cons_of_ne_nil (metricName_word hn).nonempty
        simp [hrest, (all_cons.mp hink).1] at hstop
      obtain rfl := keyword?_iff.mp hkeyword
      rw [hbody, hrest]
      exact ⟨keyword, name, _, descriptionText_of_name keyword hl hg hgap hn htail, rfl⟩

/-- A line describes a metric exactly if it is one of the grammar, and as the grammar says. -/
theorem readLine_description_iff (constants : Labels) : (readLine constants raw = .ok content ∧
      content ≠ .nothing ∧ ∀ s, content ≠ .sample s) ↔
    ∃ keyword name text, DescriptionText keyword (trim raw) name text ∧
      content = describe keyword name text := by
  constructor
  · rintro ⟨h, hsays, hsample⟩
    unfold readLine at h
    split at h
    · cases h
      exact absurd rfl hsays
    · rename_i body hraw
      rw [hraw]
      exact descriptionText_of_readComment h hsays
    · cases hs : readSample constants (trim raw) with
      | error e => simp [hs, Except.map] at h
      | ok s =>
        simp only [hs, Except.map, Except.ok.injEq] at h
        exact absurd h.symm (hsample s)
  · rintro ⟨keyword, name, text, htext, rfl⟩
    refine ⟨htext.readLine constants, ?_⟩
    cases keyword
    all_goals exact ⟨nofun, nofun⟩

end Descriptions

end MetricArchive.Exposition
