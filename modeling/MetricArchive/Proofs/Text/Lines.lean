import Mathlib.Data.List.Basic
import MetricArchive.Proofs.Text.Scan

/-!
# Lines and trimming of any text

A text may hold line breaks anywhere, several in a row and among the blanks at its ends. Cutting it
into lines takes out the breaks only, trimming takes off the blanks at both ends only, and what
stands after a line feed is cut as if it stood alone.
-/
namespace MetricArchive.Text

section Lines

variable {c : Char} {cs line rest : List Char}

theorem numberedLines_lines (cs : List Char) : (numberedLines cs).map (·.2) = lines cs := by
  simp [numberedLines, Function.comp_def]

theorem isBlank_of_isLineBreak (h : isLineBreak c = true) : isBlank c = true := by
  by_contra hb
  have hinline := isInline_of_isInk (c := c) (by simpa [isInk] using hb)
  simp [isInline, h] at hinline

/-- Cutting a text into lines takes out its breaks and nothing else. -/
theorem lines_flatten (cs : List Char) : (lines cs).flatten = cs.filter isInline := by
  fun_induction lines cs with
  | case1 => rfl
  | case2 rest ih => simpa [isInline, isLineBreak] using ih
  | case3 c rest _ hc ih => simpa [isInline, hc] using ih
  | case4 c rest _ hc hnil ih => simpa [isInline, hc, hnil] using ih
  | case5 c rest _ hc l ls hls ih => simpa [isInline, hc, hls] using ih

theorem exists_line_of_mem (hc : c ∈ cs) (hb : isInline c = true) : ∃ l ∈ lines cs, c ∈ l := by
  have hmem : c ∈ (lines cs).flatten := lines_flatten cs ▸ List.mem_filter.mpr ⟨hc, hb⟩
  exact List.mem_flatten.mp hmem

theorem line_sublist (h : line ∈ lines cs) : line.Sublist cs := by
  have hflat := List.sublist_flatten_of_mem h
  rw [lines_flatten] at hflat
  exact hflat.trans List.filter_sublist

theorem inline_of_mem_lines (h : line ∈ lines cs) : All isInline line := by
  intro c hc
  have hmem : c ∈ (lines cs).flatten := List.mem_flatten.mpr ⟨line, h, hc⟩
  rw [lines_flatten] at hmem
  exact (List.mem_filter.mp hmem).2

/-- A carriage return directly before a line feed is part of the same break. -/
theorem lines_return (h : cs.head? = some '\n') : lines ('\r' :: cs) = lines cs := by
  obtain ⟨cs, rfl⟩ := List.head?_eq_some_iff.mp h
  rw [lines_newline, lines]

theorem lines_cons (h : ¬ (c = '\r' ∧ cs.head? = some '\n')) : lines (c :: cs) =
    if isLineBreak c then [] :: lines cs
    else
      match lines cs with
      | [] => [[c]]
      | l :: ls => (c :: l) :: ls := by
  refine lines.eq_3 c cs ?_
  rintro next rfl rfl
  exact h ⟨rfl, rfl⟩

theorem lines_ne_nil (h : cs ≠ []) : lines cs ≠ [] := by
  obtain ⟨c, cs, rfl⟩ := List.exists_cons_of_ne_nil h
  by_cases hpair : c = '\r' ∧ cs.head? = some '\n'
  · obtain ⟨rfl, hhead⟩ := hpair
    obtain ⟨cs, rfl⟩ := List.head?_eq_some_iff.mp hhead
    simp [lines_return hhead, lines_newline]
  · rw [lines_cons hpair]
    split
    · simp
    · split <;> simp

/-- A line ends at its first break. -/
theorem lines_break (h : All isInline line) (hc : isLineBreak c = true) (rest : List Char) :
    ∃ next, lines (line ++ c :: rest) = line :: lines next ∧
      (next = rest ∨ rest = '\n' :: next) := by
  induction line with
  | nil =>
    by_cases hpair : c = '\r' ∧ rest.head? = some '\n'
    · obtain ⟨rfl, hhead⟩ := hpair
      obtain ⟨next, rfl⟩ := List.head?_eq_some_iff.mp hhead
      exact ⟨next, by rw [List.nil_append, lines_return hhead, lines_newline], .inr rfl⟩
    · exact ⟨rest, by rw [List.nil_append, lines_cons hpair, if_pos hc], .inl rfl⟩
  | cons d line ih =>
    obtain ⟨hd, hline⟩ := all_cons.mp h
    obtain ⟨next, hlines, hnext⟩ := ih hline
    have hb : isLineBreak d = false := by simpa [isInline] using hd
    have hr : d ≠ '\r' := by
      rintro rfl
      exact absurd hb (by decide)
    refine ⟨next, ?_, hnext⟩
    rw [List.cons_append, lines_cons (hr ·.1), hlines]
    simp [hb]

/-- A line feed ends a line, also where it belongs to the break of a carriage return. -/
theorem lines_append_newline (cs rest : List Char) :
    lines (cs ++ '\n' :: rest) = lines (cs ++ ['\n']) ++ lines rest := by
  induction cs with
  | nil => exact lines_newline rest
  | cons c cs ih =>
    have hheads : (cs ++ '\n' :: rest).head? = (cs ++ ['\n']).head? := by cases cs <;> rfl
    obtain ⟨l, ls, hls⟩ : ∃ l ls, lines (cs ++ ['\n']) = l :: ls :=
      List.exists_cons_of_ne_nil (lines_ne_nil (by simp))
    by_cases hpair : c = '\r' ∧ (cs ++ ['\n']).head? = some '\n'
    · obtain ⟨rfl, hhead⟩ := hpair
      rw [List.cons_append, List.cons_append, lines_return hhead, lines_return (hheads ▸ hhead), ih]
    · rw [List.cons_append, List.cons_append, lines_cons hpair, lines_cons (hheads ▸ hpair), ih,
        hls]
      split <;> rfl

/-- The first lines of a text are the lines of a text that it begins with. -/
theorem exists_take_lines (cs : List Char) (n : Nat) :
    ∃ part, part <+: cs ∧ lines part = (lines cs).take n := by
  -- no beginning of a text opens with a line feed unless the text does
  have hpair {c : Char} {part rest : List Char} (h : part <+: rest)
      (hno : ∀ next, c = '\r' → rest = '\n' :: next → False) :
      ¬ (c = '\r' ∧ part.head? = some '\n') := by
    rintro ⟨rfl, hhead⟩
    obtain ⟨part, rfl⟩ := List.head?_eq_some_iff.mp hhead
    obtain ⟨more, rfl⟩ := h
    exact hno (part ++ more) rfl rfl
  have hzero : ∀ cs, ∃ part, part <+: cs ∧ lines part = (lines cs).take 0 :=
    fun _ => ⟨[], List.nil_prefix, rfl⟩
  induction cs using lines.induct generalizing n with
  | case1 => exact ⟨[], List.nil_prefix, by simp [lines]⟩
  | case2 rest ih =>
    cases n with
    | zero => exact hzero _
    | succ n =>
      obtain ⟨part, hpart, hlines⟩ := ih n
      have hbreak : ['\r', '\n'] ++ part <+: ['\r', '\n'] ++ rest :=
        (List.prefix_append_right_inj _).mpr hpart
      refine ⟨'\r' :: '\n' :: part, hbreak, ?_⟩
      rw [lines, lines, hlines, List.take_succ_cons]
  | case3 c rest hno hc ih =>
    cases n with
    | zero => exact hzero _
    | succ n =>
      obtain ⟨part, hpart, hlines⟩ := ih n
      refine ⟨c :: part, (List.prefix_cons_inj _).mpr hpart, ?_⟩
      rw [lines_cons (hpair hpart hno), lines_cons (hpair List.prefix_rfl hno), if_pos hc,
        if_pos hc, hlines, List.take_succ_cons]
  | case4 c rest hno hc hnil ih =>
    cases n with
    | zero => exact hzero _
    | succ n =>
      refine ⟨c :: rest, List.prefix_rfl, ?_⟩
      rw [lines_cons (hpair List.prefix_rfl hno), if_neg hc, hnil]
      simp
  | case5 c rest hno hc l ls hls ih =>
    cases n with
    | zero => exact hzero _
    | succ n =>
      obtain ⟨part, hpart, hlines⟩ := ih (n + 1)
      refine ⟨c :: part, (List.prefix_cons_inj _).mpr hpart, ?_⟩
      rw [lines_cons (hpair hpart hno), lines_cons (hpair List.prefix_rfl hno), if_neg hc,
        if_neg hc, hlines, hls]
      rfl

/-- After a line that ends in blanks, with whatever breaks among them, come blank lines. -/
theorem lines_blanks {blanks : List Char} (h : All isInline line) (hb : All isBlank blanks) :
    ∃ tail more, lines (line ++ (blanks ++ ['\n'])) = (line ++ tail) :: more ∧ All isBlank tail ∧
      ∀ l ∈ more, All isBlank l := by
  obtain ⟨tail, later, rfl, htail, hlater⟩ := exists_run isInline blanks
  obtain ⟨htailb, hlaterb⟩ := all_append.mp hb
  have hline : All isInline (line ++ tail) := all_append.mpr ⟨h, htail⟩
  cases later with
  | nil => exact ⟨tail, [], by simpa [lines] using lines_line hline [], htailb, by simp⟩
  | cons c later =>
    have hc : isLineBreak c = true := by simpa [isInline] using hlater
    obtain ⟨next, hlines, hnext⟩ := lines_break hline hc (later ++ ['\n'])
    have hnextb : All isBlank next := by
      have hall : All isBlank (later ++ ['\n']) :=
        all_append.mpr ⟨(all_cons.mp hlaterb).2, by decide⟩
      rcases hnext with rfl | hnext
      · exact hall
      · exact (all_cons.mp (hnext ▸ hall)).2
    refine ⟨tail, lines next, by simpa using hlines, htailb, fun l hl d hd => ?_⟩
    exact hnextb d ((line_sublist hl).subset hd)

end Lines

section Trim

variable {cs core lead tail : List Char}

theorem exists_trimEnd (cs : List Char) : ∃ tail, cs = trimEnd cs ++ tail ∧ All isBlank tail := by
  refine ⟨(cs.reverse.takeWhile isBlank).reverse, ?_, fun c hc => ?_⟩
  · rw [trimEnd, ← List.reverse_append, List.takeWhile_append_dropWhile, List.reverse_reverse]
  · exact List.mem_takeWhile_imp (List.mem_reverse.mp hc)

theorem stops_trimEnd (cs : List Char) : Stops isBlank (trimEnd cs).reverse := by
  rw [trimEnd, List.reverse_reverse]
  exact stops_dropWhile isBlank _

theorem trimEnd_trimStart (h : trimEnd cs = cs) : trimEnd (trimStart cs) = trimStart cs := by
  have hcs : cs.takeWhile isBlank ++ trimStart cs = cs := List.takeWhile_append_dropWhile
  rcases List.eq_nil_or_concat' (trimStart cs) with hnil | ⟨more, c, hmore⟩
  · rw [hnil]
    rfl
  · rw [trimEnd_eq_self] at h ⊢
    rw [← hcs, hmore] at h
    simpa [hmore] using h

theorem exists_trim (cs : List Char) :
    ∃ lead tail, cs = lead ++ (trim cs ++ tail) ∧ All isBlank lead ∧ All isBlank tail := by
  obtain ⟨tail, htail, hb⟩ := exists_trimEnd (trimStart cs)
  refine ⟨cs.takeWhile isBlank, tail, ?_, all_takeWhile isBlank cs, hb⟩
  rw [trim, ← htail, trimStart, List.takeWhile_append_dropWhile]

/-- Blanks around a text make no difference to what trimming leaves of it. -/
theorem trim_blanks (hl : All isBlank lead) (ht : All isBlank tail) :
    trim (lead ++ (core ++ tail)) = trim core := by
  obtain ⟨blanks, body, rfl, hb, hbody⟩ := exists_run isBlank core
  have hstart : trimStart (blanks ++ body) = body := dropWhile_run hb hbody
  have hlead : All isBlank (lead ++ blanks) := all_append.mpr ⟨hl, hb⟩
  cases body with
  | nil =>
    have hall : All isBlank (lead ++ ((blanks ++ []) ++ tail)) := by simp [hl, hb, ht]
    have hnone : trimStart (lead ++ ((blanks ++ []) ++ tail)) = [] :=
      List.dropWhile_eq_nil_iff.mpr hall
    rw [trim, trim, hnone, hstart]
  | cons c body =>
    have hcut : trimStart (lead ++ ((blanks ++ c :: body) ++ tail)) = c :: body ++ tail := by
      simpa [trimStart] using dropWhile_run hlead (stops_cons.mpr (stops_cons.mp hbody))
    rw [trim, trim, hcut, hstart, trimEnd_append _ ht]

theorem count_trim {c : Char} (hc : isInk c = true) (cs : List Char) :
    (trim cs).count c = cs.count c := by
  have hnone : ∀ blanks, All isBlank blanks → blanks.count c = 0 := fun blanks hb =>
    List.count_eq_zero.mpr fun hmem => by simp [isInk, hb c hmem] at hc
  obtain ⟨lead, tail, hcs, hl, ht⟩ := exists_trim cs
  rw [congrArg (List.count c) hcs, List.count_append, List.count_append, hnone lead hl,
    hnone tail ht]
  omega

/-- A text with a break before its last word, cut at the first break. -/
theorem exists_break (h : ¬ All isInline (trimEnd cs)) : ∃ part c rest d,
    cs = part ++ c :: rest ∧ All isInline part ∧ isLineBreak c = true ∧ d ∈ rest ∧
      isInk d = true := by
  obtain ⟨tail, hcs, -⟩ := exists_trimEnd cs
  have hstop := stops_trimEnd cs
  obtain ⟨part, more, hcut, hpart, hmore⟩ := exists_run isInline (trimEnd cs)
  rw [hcut] at h hcs hstop
  cases more with
  | nil => exact absurd (by simpa using hpart) h
  | cons c more =>
    have hc : isLineBreak c = true := by simpa [isInline] using hmore
    rcases List.eq_nil_or_concat' more with rfl | ⟨more, d, rfl⟩
    · simp [isBlank_of_isLineBreak hc] at hstop
    · exact ⟨part, c, more ++ [d] ++ tail, d, by simpa using hcs, hpart, hc, by simp,
        by simpa [isInk] using hstop⟩

end Trim

end MetricArchive.Text
