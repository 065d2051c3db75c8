import MetricArchive.Exposition.LabelSet
import MetricArchive.Proofs.Text.Scan

/-!
# The grammar of label lists

What stands between the braces of a sample line and which labels it gives, without regard to how it
is read. Main statement: the scanner accepts up to a closing brace exactly what the grammar derives
with names that differ, and gives the labels in written order.
-/
namespace MetricArchive.Exposition

open Text

abbrev Space (cs : List Char) : Prop := All isSpaceOrTab cs

inductive NameText (start part : Char → Bool) : List Char → Prop where
  | intro {c : Char} {cs : List Char} (hc : start c = true) (hcs : All part cs) :
    NameText start part (c :: cs)

/-- What stands between two quotes, and the value that it gives. -/
inductive QuotedText : List Char → List Char → Prop where
  | nil : QuotedText [] []
  | plain {c : Char} {text value : List Char} (hq : c ≠ '"') (hb : c ≠ '\\')
    (h : QuotedText text value) : QuotedText (c :: text) (c :: value)
  | backslash {text value : List Char} (h : QuotedText text value) :
    QuotedText ('\\' :: '\\' :: text) ('\\' :: value)
  | quote {text value : List Char} (h : QuotedText text value) :
    QuotedText ('\\' :: '"' :: text) ('"' :: value)
  | newline {text value : List Char} (h : QuotedText text value) :
    QuotedText ('\\' :: 'n' :: text) ('\n' :: value)

/-- What ends a quoted text, and what reading it with its end gives. -/
inductive Halts (value : List Char) :
    List Char → Except LineRefusal (List Char × List Char) → Prop where
  | closed (rest : List Char) : Halts value ('"' :: rest) (.ok (value, rest))
  | ended : Halts value [] (.error (.fault .unterminatedValue value))
  | cut : Halts value ['\\'] (.error (.fault .invalidEscape ['\\']))
  | strange {e : Char} (he : unescape? e = none) (rest : List Char) :
    Halts value ('\\' :: e :: rest) (.error (.fault .invalidEscape ['\\', e]))

inductive ItemText : List Char → List Char × List Char → Prop where
  | intro {name before after quoted value : List Char}
    (hn : NameText isLabelStart isLabelChar name) (hb : Space before) (ha : Space after)
    (hq : QuotedText quoted value) :
    ItemText (name ++ (before ++ '=' :: (after ++ '"' :: (quoted ++ ['"'])))) (name, value)

/-- Items with commas between them and perhaps one after the last, but none without an item. -/
inductive ItemsText : List Char → List (List Char × List Char) → Prop where
  | none {space : List Char} (hs : Space space) : ItemsText space []
  | last {before text after : List Char} {item : List Char × List Char} (hb : Space before)
    (hi : ItemText text item) (ha : Space after) : ItemsText (before ++ (text ++ after)) [item]
  | next {before text after rest : List Char} {item : List Char × List Char}
    {items : List (List Char × List Char)} (hb : Space before) (hi : ItemText text item)
    (ha : Space after) (hr : ItemsText rest items) :
    ItemsText (before ++ (text ++ (after ++ ',' :: rest))) (item :: items)

def label (item : List Char × List Char) : String × String :=
  (String.ofList item.1, String.ofList item.2)

section Tokens

variable {start part : Char → Bool} {cs name text value rest : List Char}
  {result : Except LineRefusal (List Char × List Char)}

theorem skipSpace_append {space : List Char} (hs : Space space) (hr : Stops isSpaceOrTab rest) :
    skipSpace (space ++ rest) = rest :=
  dropWhile_run hs hr

theorem exists_space (cs : List Char) : ∃ space, Space space ∧ cs = space ++ skipSpace cs :=
  ⟨cs.takeWhile isSpaceOrTab, all_takeWhile _ cs, List.takeWhile_append_dropWhile.symm⟩

theorem cutName_iff : cutName start part cs = some (name, rest) ↔
    cs = name ++ rest ∧ NameText start part name ∧ Stops part rest := by
  constructor
  · intro h
    cases cs with
    | nil => cases h
    | cons c cs =>
      simp only [cutName] at h
      split at h
      · rename_i hc
        cases h
        refine ⟨?_, .intro hc (all_takeWhile part cs), stops_dropWhile part cs⟩
        rw [List.cons_append, List.takeWhile_append_dropWhile]
      · cases h
  · rintro ⟨rfl, ⟨hc, hcs⟩, hr⟩
    simp [cutName, hc, takeWhile_run hcs hr, dropWhile_run hcs hr]

/-- Reading goes through a quoted text and keeps its value. -/
theorem QuotedText.readQuotedFrom (h : QuotedText text value) (done rest : List Char) :
    readQuotedFrom done (text ++ rest) = readQuotedFrom (value.reverse ++ done) rest := by
  induction h generalizing done with
  | nil => rfl
  | plain hq hb _ ih => simp [Exposition.readQuotedFrom, hb, ih]
  | backslash _ ih => simp [Exposition.readQuotedFrom, unescape?, ih]
  | quote _ ih => simp [Exposition.readQuotedFrom, unescape?, ih]
  | newline _ ih => simp [Exposition.readQuotedFrom, unescape?, ih]

theorem Halts.readQuotedFrom {done : List Char} (h : Halts done.reverse rest result) :
    readQuotedFrom done rest = result := by
  cases h with
  | closed rest => rw [Exposition.readQuotedFrom]
  | ended => rw [Exposition.readQuotedFrom]
  | cut => rfl
  | strange he rest => simp only [Exposition.readQuotedFrom, he]

/-- Reading stops at the first character that no quoted text goes on with. -/
theorem readQuotedFrom_halts (done cs : List Char) :
    ∃ text value tail, QuotedText text value ∧ cs = text ++ tail ∧
      Halts (done.reverse ++ value) tail (readQuotedFrom done cs) := by
  -- Reading halts where it stands, or the next character has joined what was read before.
  fun_induction readQuotedFrom done cs with
  | case1 done => exact ⟨[], [], [], .nil, rfl, List.append_nil _ ▸ .ended⟩
  | case2 done rest => exact ⟨[], [], _, .nil, rfl, List.append_nil _ ▸ .closed rest⟩
  | case3 done => exact ⟨[], [], _, .nil, rfl, .cut⟩
  | case4 done e rest c he ih =>
    obtain ⟨text, value, tail, ht, rfl, hhalts⟩ := ih
    rw [List.reverse_cons, List.append_assoc, List.singleton_append] at hhalts
    unfold unescape? at he
    split at he
    · cases he
      exact ⟨_, _, _, .backslash ht, rfl, hhalts⟩
    · cases he
      exact ⟨_, _, _, .quote ht, rfl, hhalts⟩
    · cases he
      exact ⟨_, _, _, .newline ht, rfl, hhalts⟩
    · cases he
  | case5 done e rest he => exact ⟨[], [], _, .nil, rfl, .strange he rest⟩
  | case6 done c rest hq hempty hescape ih =>
    have hb : c ≠ '\\' := by
      rintro rfl
      cases rest with
      | nil => exact hempty rfl rfl
      | cons e rest => exact hescape e rest rfl rfl
    obtain ⟨text, value, tail, ht, rfl, hhalts⟩ := ih
    rw [List.reverse_cons, List.append_assoc, List.singleton_append] at hhalts
    exact ⟨_, _, _, .plain hq hb ht, rfl, hhalts⟩

theorem readQuoted_eq_iff : readQuoted cs = result ↔
    ∃ text value tail, QuotedText text value ∧ cs = text ++ tail ∧ Halts value tail result := by
  constructor
  · rintro rfl
    exact readQuotedFrom_halts [] cs
  · rintro ⟨text, value, tail, ht, rfl, hhalts⟩
    rw [readQuoted, ht.readQuotedFrom]
    apply Halts.readQuotedFrom
    simpa using hhalts

theorem readQuoted_iff : readQuoted cs = .ok (value, rest) ↔
    ∃ text, QuotedText text value ∧ cs = text ++ '"' :: rest := by
  rw [readQuoted_eq_iff]
  constructor
  · rintro ⟨text, _, _, ht, rfl, ⟨⟩⟩
    exact ⟨text, ht, rfl⟩
  · rintro ⟨text, ht, rfl⟩
    exact ⟨text, value, _, ht, rfl, .closed rest⟩

end Tokens

section Items

variable {cs text rest : List Char} {item : List Char × List Char}

theorem not_isSpaceOrTab_of_isLabelStart {c : Char} (h : isLabelStart c = true) :
    isSpaceOrTab c = false := by
  by_contra hs
  simp only [isSpaceOrTab, Bool.not_eq_false, Bool.or_eq_true, beq_iff_eq] at hs
  rcases hs with rfl | rfl <;> exact absurd h (by decide)

theorem stops_of_space {p : Char → Bool} {space : List Char} (hs : Space space)
    (hspace : p ' ' = false) (htab : p '\t' = false) (hr : space = [] → Stops p rest) :
    Stops p (space ++ rest) := by
  cases space with
  | nil => exact hr rfl
  | cons c space =>
    have hc := (all_cons.mp hs).1
    simp only [isSpaceOrTab, Bool.or_eq_true, beq_iff_eq] at hc
    rcases hc with rfl | rfl
    · exact stops_cons.mpr hspace
    · exact stops_cons.mpr htab

theorem readItem_complete (h : ItemText text item) (rest : List Char) :
    readItem (text ++ rest) = .ok (item, rest) := by
  obtain ⟨hn, hb, ha, hq⟩ := h
  rename_i name before after quoted value
  have hname : cutName isLabelStart isLabelChar (name ++ (before ++ '=' :: (after ++ '"' ::
      (quoted ++ '"' :: rest)))) = some (name, before ++ '=' :: (after ++ '"' ::
      (quoted ++ '"' :: rest))) :=
    cutName_iff.mpr ⟨rfl, hn, stops_of_space hb (by decide) (by decide)
      fun _ => stops_cons.mpr (by decide)⟩
  have hbefore := skipSpace_append hb (stops_cons.mpr (by decide) :
    Stops isSpaceOrTab ('=' :: (after ++ '"' :: (quoted ++ '"' :: rest))))
  have hafter := skipSpace_append ha (stops_cons.mpr (by decide) :
    Stops isSpaceOrTab ('"' :: (quoted ++ '"' :: rest)))
  have hvalue : readQuoted (quoted ++ '"' :: rest) = .ok (value, rest) :=
    readQuoted_iff.mpr ⟨quoted, hq, rfl⟩
  simp [readItem, hname, hbefore, hafter, hvalue]

theorem readItem_sound (h : readItem cs = .ok (item, rest)) :
    ∃ text, ItemText text item ∧ cs = text ++ rest := by
  unfold readItem at h
  split at h
  · cases h
  · rename_i name tail hname
    obtain ⟨rfl, hn, -⟩ := cutName_iff.mp hname
    obtain ⟨before, hb, htail⟩ := exists_space tail
    split at h
    · rename_i body hbody
      obtain ⟨after, ha, hafter⟩ := exists_space body
      split at h
      · rename_i inner hinner
        split at h
        · rename_i value tail hread
          cases h
          obtain ⟨quoted, hq, rfl⟩ := readQuoted_iff.mp hread
          refine ⟨_, .intro hn hb ha hq, ?_⟩
          rw [htail, hbody, hafter, hinner]
          simp
        · cases h
      · cases h
    · cases h

/-- An item starts with a letter or an underscore. -/
theorem ItemText.head (h : ItemText text item) :
    ∃ c more, text = c :: more ∧ isLabelStart c = true := by
  obtain ⟨⟨hc, -⟩, -, -, -⟩ := h
  exact ⟨_, _, rfl, hc⟩

end Items

section Lists

variable {line cs text rest more : List Char} {found labels : Labels}
  {item : List Char × List Char} {items : List (List Char × List Char)} {c : Char}

theorem readLabels_close (h : skipSpace cs = '}' :: rest) :
    readLabels line found cs = .ok (found, rest) := by
  rw [readLabels]
  split <;> simp_all

/-- What happens after an item whose name is new. -/
theorem readLabels_item (h : skipSpace cs = c :: more) (hc : c ≠ '}')
    (hi : readItem (c :: more) = .ok (item, rest))
    (hn : (label item).1 ∉ found.map (·.1)) :
    readLabels line found cs =
      match skipSpace rest with
      | ',' :: next => readLabels line (found ++ [label item]) next
      | '}' :: next => .ok (found ++ [label item], next)
      | other => .error (.fault .missingSeparator (other.take 16)) := by
  have hfound : found.any (·.1 == String.ofList item.1) = false := by
    rw [List.any_eq_false]
    intro p hp he
    exact hn (List.mem_map.mpr ⟨p, hp, eq_of_beq he⟩)
  rw [readLabels]
  split
  · simp_all
  · rename_i hd
    rw [h] at hd
    cases hd
    exact absurd rfl hc
  · rename_i d tail _ hd
    rw [h] at hd
    cases hd
    split
    · simp_all
    · rename_i name value rest' hitem
      rw [hi] at hitem
      cases hitem
      simp only [hfound]
      rw [if_neg Bool.false_ne_true]
      split <;> simp_all [label]

/-- Where the scanner stands when it has read an item. -/
theorem skipSpace_item (hi : ItemText text item) {space : List Char} (hs : Space space)
    (rest : List Char) : ∃ c more, skipSpace (space ++ (text ++ rest)) = c :: more ∧ c ≠ '}' ∧
      readItem (c :: more) = .ok (item, rest) := by
  obtain ⟨c, more, rfl, hc⟩ := hi.head
  refine ⟨c, more ++ rest, ?_, ?_, readItem_complete hi rest⟩
  · exact skipSpace_append hs (stops_cons.mpr (not_isSpaceOrTab_of_isLabelStart hc))
  · rintro rfl
    exact absurd hc (by decide)

theorem not_mem_of_names {l : String × String} (h : ((found ++ l :: labels).map (·.1)).Nodup) :
    l.1 ∉ found.map (·.1) := by
  rw [List.map_append, List.nodup_append] at h
  exact fun hm => h.2.2 _ hm l.1 (by simp) rfl

theorem readLabels_complete (h : ItemsText text items) (line : List Char) {found : Labels}
    (hn : ((found ++ items.map label).map (·.1)).Nodup) (rest : List Char) :
    readLabels line found (text ++ '}' :: rest) = .ok (found ++ items.map label, rest) := by
  induction h generalizing found with
  | none hs =>
    rw [readLabels_close (skipSpace_append hs (stops_cons.mpr (by decide)))]
    simp
  | @last before text after item hb hi ha =>
    obtain ⟨c, more, hskip, hc, hitem⟩ := skipSpace_item hi hb (after ++ '}' :: rest)
    have hnew := not_mem_of_names hn
    have hclose := skipSpace_append ha
      (stops_cons.mpr (by decide) : Stops isSpaceOrTab ('}' :: rest))
    simp only [List.append_assoc]
    rw [readLabels_item hskip hc hitem hnew, hclose]
    rfl
  | @next before text after tail item items hb hi ha _ ih =>
    obtain ⟨c, more, hskip, hc, hitem⟩ :=
      skipSpace_item hi hb (after ++ ',' :: (tail ++ '}' :: rest))
    have hnew := not_mem_of_names hn
    have hcomma := skipSpace_append ha
      (stops_cons.mpr (by decide) : Stops isSpaceOrTab (',' :: (tail ++ '}' :: rest)))
    simp only [List.append_assoc, List.cons_append]
    rw [readLabels_item hskip hc hitem hnew, hcomma]
    have hgrown : ((found ++ [label item] ++ items.map label).map (·.1)).Nodup := by
      simpa using hn
    simpa using ih hgrown

theorem names_append {l : String × String} (hf : (found.map (·.1)).Nodup)
    (hn : ¬ found.any (·.1 == l.1) = true) : ((found ++ [l]).map (·.1)).Nodup := by
  rw [List.map_append, List.nodup_append]
  refine ⟨hf, by simp, ?_⟩
  rintro a ha b hb rfl
  obtain ⟨p, hp, rfl⟩ := List.mem_map.mp ha
  apply hn
  rw [List.any_eq_true]
  exact ⟨p, hp, by simpa using hb⟩

theorem readLabels_sound (h : readLabels line found cs = .ok (labels, rest))
    (hf : (found.map (·.1)).Nodup) :
    ∃ text items, ItemsText text items ∧ cs = text ++ '}' :: rest ∧
      labels = found ++ items.map label ∧ (labels.map (·.1)).Nodup := by
  fun_induction readLabels line found cs with
  | case1 => cases h
  | case2 found cs tail hstart =>
    cases h
    obtain ⟨space, hs, hcs⟩ := exists_space cs
    exact ⟨space, [], .none hs, by rw [hcs, hstart], by simp, hf⟩
  | case3 => cases h
  | case4 => cases h
  | case5 found cs c more _ hstart name value tail hitem spelled hn grown next hsep ih =>
    obtain ⟨before, hb, hcs⟩ := exists_space cs
    obtain ⟨text, ht, hmore⟩ := readItem_sound hitem
    obtain ⟨after, ha, htail⟩ := exists_space tail
    obtain ⟨others, items, ho, rfl, rfl, hnames⟩ := ih h (names_append hf hn)
    refine ⟨_, (name, value) :: items, .next hb ht ha ho, ?_, ?_, hnames⟩
    · rw [hcs, hstart, hmore, htail, hsep]
      simp
    · simp [grown, spelled, label]
  | case6 found cs c more _ hstart name value tail hitem spelled hn grown next hsep =>
    obtain ⟨hlabels, rfl⟩ := Prod.mk.inj (Except.ok.inj h)
    obtain ⟨before, hb, hcs⟩ := exists_space cs
    obtain ⟨text, ht, hmore⟩ := readItem_sound hitem
    obtain ⟨after, ha, htail⟩ := exists_space tail
    refine ⟨_, [(name, value)], .last hb ht ha, ?_, hlabels.symm, ?_⟩
    · rw [hcs, hstart, hmore, htail, hsep]
      simp
    · rw [← hlabels]
      exact names_append hf hn
  | case7 => cases h

/-- The labels up to a closing brace are those of the text before it. -/
theorem readLabels_iff : readLabels line [] cs = .ok (labels, rest) ↔
    ∃ text items, ItemsText text items ∧ cs = text ++ '}' :: rest ∧ labels = items.map label ∧
      (labels.map (·.1)).Nodup := by
  constructor
  · intro h
    simpa using readLabels_sound h (by simp)
  · rintro ⟨text, items, ht, rfl, rfl, hn⟩
    exact @readLabels_complete _ _ ht line [] hn rest

end Lists

end MetricArchive.Exposition
