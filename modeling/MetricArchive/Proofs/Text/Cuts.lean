import Mathlib.Data.List.Infix
import MetricArchive.Proofs.Text.Scan
import MetricArchive.Text.Split

/-!
# Cutting a text at a character

Main statements: what is cut off holds no separator and both parts with a separator between them are
the text, whether it is cut at the first separator, at the last or at all of them; and a text that
is put together from such parts is cut into these parts again.
-/
namespace MetricArchive.Text

variable {s c : Char} {cs before after rest : List Char}

theorem all_ne_iff : All (· != s) cs ↔ s ∉ cs := by
  simp only [All, bne_iff_ne]
  exact ⟨fun h hs => h s hs rfl, fun h c hc hcs => h (hcs ▸ hc)⟩

theorem cutAt_run (h : s ∉ before) (after : List Char) :
    cutAt s (before ++ s :: after) = (before, some after) := by
  have hall : All (· != s) before := all_ne_iff.mpr h
  have hstop : Stops (· != s) (s :: after) := by simp
  rw [cutAt, takeWhile_run hall hstop, dropWhile_run hall hstop]

theorem cutAt_of_not_mem (h : s ∉ cs) : cutAt s cs = (cs, none) := by
  have hall : All (· != s) cs := all_ne_iff.mpr h
  have htake := takeWhile_run hall stops_nil
  have hdrop := dropWhile_run hall stops_nil
  rw [List.append_nil] at htake hdrop
  rw [cutAt, htake, hdrop]

/-- A text without the separator, or one whose first separator is known. -/
theorem exists_cutAt (s : Char) (cs : List Char) :
    s ∉ cs ∨ ∃ before after, cs = before ++ s :: after ∧ s ∉ before := by
  by_cases h : s ∈ cs
  · obtain ⟨before, after, hcs, hbefore⟩ := List.eq_append_cons_of_mem h
    exact .inr ⟨before, after, hcs, hbefore⟩
  · exact .inl h

theorem cutAt_some (h : cutAt s cs = (before, some after)) :
    cs = before ++ s :: after ∧ s ∉ before := by
  obtain hno | ⟨b, a, rfl, hb⟩ := exists_cutAt s cs
  · rw [cutAt_of_not_mem hno] at h
    cases h
  · rw [cutAt_run hb] at h
    cases h
    exact ⟨rfl, hb⟩

theorem cutAt_none (h : cutAt s cs = (before, none)) : before = cs ∧ s ∉ cs := by
  obtain hno | ⟨b, a, rfl, hb⟩ := exists_cutAt s cs
  · rw [cutAt_of_not_mem hno] at h
    cases h
    exact ⟨rfl, hno⟩
  · rw [cutAt_run hb] at h
    cases h

theorem cutAtLast?_run (h : s ∉ after) (before : List Char) :
    cutAtLast? s (before ++ s :: after) = some (before, after) := by
  have hrev : (before ++ s :: after).reverse = after.reverse ++ s :: before.reverse := by simp
  rw [cutAtLast?, hrev, cutAt_run (by rwa [List.mem_reverse])]
  simp

theorem cutAtLast?_of_not_mem (h : s ∉ cs) : cutAtLast? s cs = none := by
  rw [cutAtLast?, cutAt_of_not_mem (by rwa [List.mem_reverse])]

theorem cutAtLast?_some (h : cutAtLast? s cs = some (before, after)) :
    cs = before ++ s :: after ∧ s ∉ after := by
  unfold cutAtLast? at h
  split at h
  · cases h
  · rename_i a b hcut
    obtain ⟨hcs, ha⟩ := cutAt_some hcut
    cases h
    have hrev := congrArg List.reverse hcs
    simp only [List.reverse_reverse, List.reverse_append, List.reverse_cons, List.append_assoc,
      List.singleton_append] at hrev
    exact ⟨hrev, by rwa [List.mem_reverse]⟩

theorem cutAtLast?_none (h : cutAtLast? s cs = none) : s ∉ cs := by
  unfold cutAtLast? at h
  split at h
  · rename_i a hcut
    rw [← List.mem_reverse]
    exact (cutAt_none hcut).2
  · cases h

theorem split_of_not_mem (h : s ∉ cs) : split s cs = [cs] := by
  induction cs with
  | nil => rfl
  | cons c cs ih =>
    obtain ⟨hc, hcs⟩ : s ≠ c ∧ s ∉ cs := by simpa using h
    simp [split, ih hcs, Ne.symm hc]

theorem split_run (h : s ∉ before) (after : List Char) :
    split s (before ++ s :: after) = before :: split s after := by
  induction before with
  | nil => simp [split]
  | cons c before ih =>
    obtain ⟨hc, hbefore⟩ : s ≠ c ∧ s ∉ before := by simpa using h
    simp [split, ih hbefore, Ne.symm hc]

theorem split_append_cons (before after : List Char) :
    split s (before ++ s :: after) = split s before ++ split s after := by
  induction before with
  | nil => simp [split]
  | cons c before ih =>
    obtain ⟨part, parts, hsplit⟩ := List.exists_cons_of_ne_nil (split_ne_nil s before)
    rw [hsplit] at ih
    rw [List.cons_append, split, split, ih, hsplit]
    split <;> rfl

theorem not_mem_of_mem_split (h : before ∈ split s cs) : s ∉ before := by
  induction cs generalizing before with
  | nil =>
    rw [List.mem_singleton.mp h]
    exact List.not_mem_nil
  | cons c cs ih =>
    obtain ⟨part, parts, hsplit⟩ := List.exists_cons_of_ne_nil (split_ne_nil s cs)
    rw [hsplit] at ih
    simp only [split, hsplit] at h
    split at h
    · rcases List.mem_cons.mp h with rfl | h
      · exact List.not_mem_nil
      · exact ih h
    · rename_i hc
      rcases List.mem_cons.mp h with rfl | h
      · have hne : s ≠ c := fun heq => hc (by simp [heq])
        simpa [hne] using ih List.mem_cons_self
      · exact ih (List.mem_cons_of_mem _ h)

/-- Parts with separators between them are the parts of the whole. -/
theorem split_intercalate {parts : List (List Char)} (hne : parts ≠ [])
    (h : ∀ part ∈ parts, s ∉ part) : split s ([s].intercalate parts) = parts := by
  induction parts with
  | nil => exact absurd rfl hne
  | cons part parts ih =>
    obtain ⟨hpart, hparts⟩ := List.forall_mem_cons.mp h
    cases parts with
    | nil =>
      rw [List.intercalate_singleton, split_of_not_mem hpart]
    | cons next parts =>
      rw [List.intercalate_cons_cons, List.append_assoc, List.singleton_append, split_run hpart,
        ih (by simp) hparts]

theorem mem_intercalate {parts : List (List Char)} (h : c ∈ [s].intercalate parts) :
    c = s ∨ ∃ part ∈ parts, c ∈ part := by
  induction parts with
  | nil => simp at h
  | cons part parts ih =>
    cases parts with
    | nil =>
      rw [List.intercalate_singleton] at h
      exact .inr ⟨part, List.mem_cons_self, h⟩
    | cons next parts =>
      rw [List.intercalate_cons_cons, List.append_assoc, List.mem_append, List.mem_append] at h
      obtain h | h | h := h
      · exact .inr ⟨part, List.mem_cons_self, h⟩
      · exact .inl (List.mem_singleton.mp h)
      · obtain rfl | ⟨found, hmem, hc⟩ := ih h
        · exact .inl rfl
        · exact .inr ⟨found, List.mem_cons_of_mem _ hmem, hc⟩

/-- A text can be cut at a phrase exactly if the phrase stands in it. -/
theorem isSome_cutAtPhrase? {phrase : List Char} :
    (cutAtPhrase? phrase cs).isSome ↔ phrase <:+: cs := by
  fun_induction cutAtPhrase? phrase cs with
  | case1 h => simp_all
  | case2 h => simp_all
  | case3 c cs h =>
    exact ⟨fun _ => (List.isPrefixOf_iff_prefix.mp h).isInfix, fun _ => rfl⟩
  | case4 c cs h ih =>
    rw [Option.isSome_map, ih, List.infix_cons_iff, or_iff_right]
    exact fun hpre => h (List.isPrefixOf_iff_prefix.mpr hpre)

end MetricArchive.Text
