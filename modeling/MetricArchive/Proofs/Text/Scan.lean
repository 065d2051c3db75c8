import Mathlib.Data.List.TakeWhile
import MetricArchive.Text.Blank
import MetricArchive.Text.Digit
import MetricArchive.Text.Line

/-!
# Scanning characters of a class

A scanner takes the longest run of a class. `All` says that a text is such a run and `Stops` that a
run ends in front of a text; together they fix what the scanner takes and what it leaves. Words are
runs of characters that are no blanks, trimming leaves a text without blanks at its ends, and lines
are runs without line breaks.
-/
namespace MetricArchive.Text

def All (p : Char → Bool) (cs : List Char) : Prop := ∀ c ∈ cs, p c = true

def Stops (p : Char → Bool) (cs : List Char) : Prop := ∀ c ∈ cs.head?, p c = false

instance (p : Char → Bool) (cs : List Char) : Decidable (All p cs) :=
  List.decidableBAll (fun c => p c = true) cs

section Runs

variable {p q : Char → Bool} {c : Char} {cs run rest : List Char}

@[simp] theorem all_nil : All p [] := by simp [All]

@[simp] theorem all_cons : All p (c :: cs) ↔ p c = true ∧ All p cs := by simp [All]

@[simp] theorem all_append : All p (cs ++ rest) ↔ All p cs ∧ All p rest :=
  List.forall_mem_append

@[simp] theorem stops_nil : Stops p [] := by simp [Stops]

@[simp] theorem stops_cons : Stops p (c :: cs) ↔ p c = false := by simp [Stops]

theorem all_iff : All p cs ↔ cs.all p = true := by simp [All]

theorem All.imp (h : All p cs) (hpq : ∀ c, p c = true → q c = true) : All q cs :=
  fun c hc => hpq c (h c hc)

theorem Stops.append (h : Stops p run) (hr : Stops p rest) : Stops p (run ++ rest) := by
  cases run with
  | nil => exact hr
  | cons c run => simpa using h

theorem takeWhile_run (h : All p run) (hr : Stops p rest) : (run ++ rest).takeWhile p = run := by
  rw [List.takeWhile_append_of_pos h]
  cases rest with
  | nil => simp
  | cons c rest => simp [stops_cons.mp hr]

theorem dropWhile_run (h : All p run) (hr : Stops p rest) : (run ++ rest).dropWhile p = rest := by
  rw [List.dropWhile_append_of_pos h]
  cases rest with
  | nil => simp
  | cons c rest => simp [stops_cons.mp hr]

theorem all_takeWhile (p : Char → Bool) (cs : List Char) : All p (cs.takeWhile p) :=
  fun _ => List.mem_takeWhile_imp

theorem stops_dropWhile (p : Char → Bool) (cs : List Char) : Stops p (cs.dropWhile p) := by
  induction cs with
  | nil => simp
  | cons c cs ih =>
    rw [List.dropWhile_cons]
    split
    · exact ih
    · rename_i hc
      simpa using hc

theorem exists_run (p : Char → Bool) (cs : List Char) :
    ∃ run rest, cs = run ++ rest ∧ All p run ∧ Stops p rest :=
  ⟨_, _, List.takeWhile_append_dropWhile.symm, all_takeWhile p cs, stops_dropWhile p cs⟩

end Runs

def isInk (c : Char) : Bool := !isBlank c

theorem isInk_of_range {c : Char} (hlo : 0x21 ≤ c.toNat) (hhi : c.toNat ≤ 0x7e) :
    isInk c = true := by
  simp only [isInk, isBlank, Bool.not_eq_true', Bool.or_eq_false_iff, Bool.and_eq_false_imp,
    decide_eq_true_eq, decide_eq_false_iff_not, beq_eq_false_iff_ne]
  omega

structure Word (w : List Char) : Prop where
  nonempty : w ≠ []
  ink : All isInk w

section Words

variable {c : Char} {cs w rest : List Char}

theorem Word.append {v : List Char} (hv : All isInk v) (hw : Word w) : Word (v ++ w) where
  nonempty h := hw.nonempty (List.append_eq_nil_iff.mp h).2
  ink := all_append.mpr ⟨hv, hw.ink⟩

theorem stops_blanks {gap : List Char} (h : All isBlank gap) (hne : gap ≠ []) (rest : List Char) :
    Stops isInk (gap ++ rest) := by
  obtain ⟨c, gap, rfl⟩ := List.exists_cons_of_ne_nil hne
  simp [isInk, (all_cons.mp h).1]

theorem words_blanks (h : All isBlank w) (cs : List Char) : words (w ++ cs) = words cs := by
  induction w with
  | nil => rfl
  | cons c w ih =>
    obtain ⟨hc, hw⟩ := all_cons.mp h
    rw [List.cons_append, words_blank hc, ih hw]

theorem words_ink (hc : isInk c = true) (hr : Stops isInk rest) :
    words (c :: rest) = [c] :: words rest := by
  have hb : isBlank c = false := by simpa [isInk] using hc
  cases rest with
  | nil => simp [words, hb]
  | cons d rest =>
    have hd : isBlank d = true := by simpa [isInk] using hr
    simp [words, hb, hd, Option.filter_some]

theorem words_ink_ink {d : Char} (hc : isInk c = true) (hd : isInk d = true) {ws : List (List Char)}
    (h : words (d :: rest) = w :: ws) : words (c :: d :: rest) = (c :: w) :: ws := by
  have hb : isBlank c = false := by simpa [isInk] using hc
  have hb' : isBlank d = false := by simpa [isInk] using hd
  rw [words]
  simp [hb, hb', h, Option.filter_some]

theorem words_word (hw : Word w) (hr : Stops isInk rest) : words (w ++ rest) = w :: words rest := by
  obtain ⟨hne, hink⟩ := hw
  induction w with
  | nil => exact absurd rfl hne
  | cons c w ih =>
    obtain ⟨hc, hw⟩ := all_cons.mp hink
    cases w with
    | nil => exact words_ink hc hr
    | cons d w => exact words_ink_ink hc (all_cons.mp hw).1 (ih (by simp) hw)

theorem words_eq_nil : words cs = [] ↔ All isBlank cs := by
  constructor
  · induction cs with
    | nil => simp
    | cons c cs ih =>
      intro h
      rw [words] at h
      split at h
      · rename_i hc
        exact all_cons.mpr ⟨hc, ih h⟩
      · split at h <;> simp at h
  · intro h
    simpa [words] using words_blanks h []

theorem cutWord_word {lead : List Char} (hl : All isBlank lead) (hw : Word w)
    (hr : Stops isInk rest) : cutWord (lead ++ (w ++ rest)) = (w, rest) := by
  have hstop : Stops isBlank (w ++ rest) := by
    obtain ⟨hne, hink⟩ := hw
    cases w with
    | nil => exact absurd rfl hne
    | cons c w => simpa [isInk] using (all_cons.mp hink).1
  have hstart : trimStart (lead ++ (w ++ rest)) = w ++ rest := dropWhile_run hl hstop
  unfold cutWord
  rw [hstart]
  exact Prod.ext (takeWhile_run hw.ink hr) (dropWhile_run hw.ink hr)

/-- What is cut off is a run of ink that ends where the ink does. -/
theorem exists_cutWord (cs : List Char) : ∃ lead, cs = lead ++ ((cutWord cs).1 ++ (cutWord cs).2) ∧
    All isBlank lead ∧ All isInk (cutWord cs).1 ∧ Stops isInk (cutWord cs).2 := by
  refine ⟨cs.takeWhile isBlank, ?_, all_takeWhile isBlank cs, all_takeWhile isInk _,
    stops_dropWhile isInk _⟩
  rw [cutWord, List.takeWhile_append_dropWhile, trimStart, List.takeWhile_append_dropWhile]

/-- The first word, with the blanks before it and what comes after. -/
theorem words_eq_cons {ws : List (List Char)} (h : words cs = w :: ws) :
    ∃ lead rest, cs = lead ++ w ++ rest ∧ All isBlank lead ∧ Word w ∧ Stops isInk rest ∧
      words rest = ws := by
  obtain ⟨lead, body, rfl, hlead, hbody⟩ := exists_run isBlank cs
  rw [words_blanks hlead] at h
  obtain ⟨v, rest, rfl, hv, hr⟩ := exists_run isInk body
  have hne : v ≠ [] := by
    rintro rfl
    cases rest with
    | nil => simp [words] at h
    | cons c rest => simp_all [isInk]
  rw [words_word ⟨hne, hv⟩ hr] at h
  obtain ⟨rfl, rfl⟩ := List.cons.inj h
  exact ⟨lead, rest, (List.append_assoc ..).symm, hlead, ⟨hne, hv⟩, hr, rfl⟩

end Words

section Trim

variable {cs rest : List Char}

theorem trimEnd_append (cs : List Char) (h : All isBlank rest) :
    trimEnd (cs ++ rest) = trimEnd cs := by
  unfold trimEnd
  rw [List.reverse_append, List.dropWhile_append_of_pos]
  intro c hc
  exact h c (List.mem_reverse.mp hc)

theorem trimEnd_length (cs : List Char) : (trimEnd cs).length ≤ cs.length := by
  rw [trimEnd, List.length_reverse, ← @List.length_reverse _ cs]
  exact (List.dropWhile_sublist _).length_le

theorem trimStart_of_trim (h : trim cs = cs) : trimStart cs = cs := by
  have hlen : cs.length ≤ (trimStart cs).length :=
    calc cs.length = (trim cs).length := by rw [h]
      _ ≤ (trimStart cs).length := trimEnd_length _
  exact (List.dropWhile_sublist isBlank).eq_of_length_le hlen

theorem trimEnd_of_trim (h : trim cs = cs) : trimEnd cs = cs := by
  rw [trim, trimStart_of_trim h] at h
  exact h

/-- A trimmed text does not end in blanks. -/
theorem eq_nil_of_trimEnd (h : trimEnd (cs ++ rest) = cs ++ rest) (hr : All isBlank rest) :
    rest = [] := by
  rw [trimEnd_append cs hr] at h
  have hlen := trimEnd_length cs
  rw [h, List.length_append] at hlen
  exact List.length_eq_zero_iff.mp (by omega)

theorem trimEnd_eq_self : trimEnd cs = cs ↔ Stops isBlank cs.reverse := by
  unfold trimEnd
  constructor
  · intro h
    rw [← h, List.reverse_reverse]
    exact stops_dropWhile isBlank _
  · intro h
    have hdrop := dropWhile_run all_nil h
    rw [List.nil_append] at hdrop
    rw [hdrop, List.reverse_reverse]

/-- A text ends in no blank if a part at its end does. -/
theorem trimEnd_append_eq_self (h : trimEnd rest = rest) (hne : rest ≠ []) :
    trimEnd (cs ++ rest) = cs ++ rest := by
  rw [trimEnd_eq_self] at h ⊢
  rw [List.reverse_append]
  cases hr : rest.reverse with
  | nil => exact absurd (List.reverse_eq_nil_iff.mp hr) hne
  | cons c more =>
    rw [hr] at h
    simpa using h

theorem Word.trimEnd (hw : Word rest) : Text.trimEnd rest = rest := by
  rw [trimEnd_eq_self]
  cases hr : rest.reverse with
  | nil => simp
  | cons c more =>
    have hc := hw.ink c (List.mem_reverse.mp (hr ▸ List.mem_cons_self))
    simpa [isInk] using hc

/-- Trimming a text that starts with no blank takes the blanks at its end. -/
theorem trim_ink {c : Char} (hc : isInk c = true) (h : trimEnd (c :: cs) = c :: cs)
    (hr : All isBlank rest) : trim (c :: cs ++ rest) = c :: cs := by
  have hb : isBlank c = false := by simpa [isInk] using hc
  rw [trim, List.cons_append, trimStart_of_not_blank hb, ← List.cons_append, trimEnd_append _ hr, h]

end Trim

section Digits

theorem isInk_of_isDigit {c : Char} (h : isDigit c = true) : isInk c = true := by
  have key : digitZeros.all (fun z => (List.range 10).all fun i => isInk (Char.ofNat (z + i))) := by
    decide +kernel
  simp only [isDigit, digit?, Option.isSome_map, List.find?_isSome, Bool.and_eq_true,
    decide_eq_true_eq] at h
  obtain ⟨z, hz, hlo, hhi⟩ := h
  have hc := List.all_eq_true.mp (List.all_eq_true.mp key z hz) (c.toNat - z)
    (List.mem_range.mpr (by omega))
  rwa [Nat.add_sub_cancel' hlo, Char.ofNat_toNat] at hc

theorem digit?_digitChar {n : Nat} (h : n < 10) : digit? n.digitChar = some n := by
  have key : ∀ n < 10, digit? n.digitChar = some n := by decide
  exact key n h

theorem all_isDigit_toDigits (n : Nat) : All isDigit (Nat.toDigits 10 n) := by
  induction n using Nat.strongRecOn with
  | ind n ih =>
    rw [Nat.toDigits_eq_if (by decide)]
    split
    · rename_i h
      simp [isDigit, digit?_digitChar h]
    · have hlast : n % 10 < 10 := Nat.mod_lt n (by decide)
      simp [ih (n / 10) (by omega), isDigit, digit?_digitChar hlast]

theorem digitsValue_toDigits (n : Nat) : digitsValue (Nat.toDigits 10 n) = n := by
  induction n using Nat.strongRecOn with
  | ind n ih =>
    rw [Nat.toDigits_eq_if (by decide)]
    split
    · rename_i h
      simp [digitsValue, digit?_digitChar h]
    · have hlast : n % 10 < 10 := Nat.mod_lt n (by decide)
      rw [digitsValue_append_singleton, ih (n / 10) (by omega), digit?_digitChar hlast,
        Option.getD_some]
      omega

end Digits

section Lines

def isInline (c : Char) : Bool := !isLineBreak c

theorem isInline_of_isInk {c : Char} (h : isInk c = true) : isInline c = true := by
  simp only [isInk, isBlank, isInline, isLineBreak, Bool.not_eq_true', Bool.or_eq_false_iff,
    Bool.and_eq_false_imp, decide_eq_true_eq, decide_eq_false_iff_not, beq_eq_false_iff_ne] at h ⊢
  omega

theorem Word.inline {w : List Char} (hw : Word w) : All isInline w :=
  hw.ink.imp fun _ => isInline_of_isInk

theorem lines_line {line : List Char} (h : All isInline line) (rest : List Char) :
    lines (line ++ '\n' :: rest) = line :: lines rest := by
  induction line with
  | nil => exact lines_newline rest
  | cons c line ih =>
    obtain ⟨hc, hline⟩ := all_cons.mp h
    have hb : isLineBreak c = false := by simpa [isInline] using hc
    have hr : c ≠ '\r' := by
      rintro rfl
      exact absurd hb (by decide)
    rw [List.cons_append, lines]
    · simp [hb, ih hline]
    · exact fun _ hcr _ => hr hcr

/-- Lines that are each ended by a line feed. -/
theorem lines_flatMap {ls : List (List Char)} (h : ∀ l ∈ ls, All isInline l) :
    lines (ls.flatMap fun l => l ++ ['\n']) = ls := by
  induction ls with
  | nil => rfl
  | cons l ls ih =>
    obtain ⟨hl, hls⟩ := List.forall_mem_cons.mp h
    rw [List.flatMap_cons, List.append_assoc, List.singleton_append, lines_line hl, ih hls]

end Lines

end MetricArchive.Text
