import Mathlib.Data.List.Basic
import MetricArchive.Exposition.Payload

/-!
# Line after line

Lines are read one after the other, and the first one that cannot be read ends the reading. Main
statement: lines are refused exactly if those up to some point are read and the next one is refused,
and the refusal is the one of that line.
-/
namespace MetricArchive.Exposition

open Text

def numbered (ls : List (List Char)) : List (Nat × List Char) :=
  ls.zipIdx.map fun (l, i) => (i + 1, l)

def readLines (constants : Labels) (ls : List (List Char)) :
    Except Refusal (List MetricFamily) :=
  match Assembly.empty.feedAll constants (numbered ls) with
  | (a, none) => .ok a.finish
  | (_, some e) => .error e

section Numbered

variable {ls above below : List (List Char)} {front back : List (Nat × List Char)}
  {n : Nat} {raw : List Char}

theorem numbered_lines (ls : List (List Char)) : (numbered ls).map (·.2) = ls := by
  simp [numbered, Function.comp_def]

theorem numbered_append (ls ms : List (List Char)) :
    numbered (ls ++ ms) = numbered ls ++ (ms.zipIdx ls.length).map fun (l, i) => (i + 1, l) := by
  rw [numbered, List.zipIdx_append, List.map_append, Nat.zero_add]
  rfl

theorem numbered_cons (above below : List (List Char)) (raw : List Char) :
    ∃ more, numbered (above ++ raw :: below) =
      numbered above ++ (above.length + 1, raw) :: more :=
  ⟨_, numbered_append above (raw :: below)⟩

/-- A line has the number of lines up to it for its number. -/
theorem numbered_split (h : numbered ls = front ++ (n, raw) :: back) :
    ∃ above below, ls = above ++ raw :: below ∧ front = numbered above ∧ n = above.length + 1 := by
  obtain ⟨first, second, hsplit, rfl, hback⟩ := List.map_eq_append_iff.mp h
  obtain ⟨above, behind, rfl, rfl, rfl⟩ := List.zipIdx_eq_append_iff.mp hsplit
  cases behind with
  | nil => simp at hback
  | cons line below =>
    simp only [List.zipIdx_cons, List.map_cons, List.cons.injEq, Prod.mk.injEq] at hback
    obtain ⟨⟨rfl, rfl⟩, -⟩ := hback
    exact ⟨above, below, rfl, rfl, by simp⟩

end Numbered

section Feeding

variable {constants : Labels} {a b : Assembly} {n : Nat} {raw : List Char} {e : Refusal}

namespace Assembly

theorem feed_ok {content : LineContent} (hr : readLine constants raw = .ok content)
    (ha : a.add n content = .ok b) : a.feed constants n raw = .ok b := by
  simp [feed, hr, Except.bind, ha]

/-- A fault tells the number of its line. -/
theorem line_of_feed {f : Fault} (h : a.feed constants n raw = .error (.fault f)) : f.line = n := by
  unfold feed at h
  split at h
  · cases h
  · rename_i refusal _
    cases refusal with
    | fault cause token =>
      cases h
      rfl
    | breakdown b => cases h

theorem feedAll_append (constants : Labels) (a : Assembly) (l m : List (Nat × List Char)) :
    a.feedAll constants (l ++ m) =
      match a.feedAll constants l with
      | (b, none) => b.feedAll constants m
      | (b, some e) => (b, some e) := by
  induction l generalizing a with
  | nil => rfl
  | cons p l ih =>
    obtain ⟨n, raw⟩ := p
    simp only [feedAll, List.cons_append]
    cases a.feed constants n raw with
    | ok b => exact ih b
    | error e => rfl

/-- Lines are refused with the first line that is. -/
theorem exists_of_feedAll_error {ls : List (Nat × List Char)}
    (h : a.feedAll constants ls = (b, some e)) : ∃ front n raw back,
      ls = front ++ (n, raw) :: back ∧ a.feedAll constants front = (b, none) ∧
        b.feed constants n raw = .error e := by
  induction ls generalizing a with
  | nil => cases h
  | cons p rest ih =>
    obtain ⟨n, raw⟩ := p
    cases hfeed : a.feed constants n raw with
    | ok a' =>
      simp only [feedAll, hfeed] at h
      obtain ⟨front, m, line, back, rfl, hfront, hline⟩ := ih h
      exact ⟨(n, raw) :: front, m, line, back, rfl, by simpa [feedAll, hfeed] using hfront, hline⟩
    | error refusal =>
      simp only [feedAll, hfeed] at h
      cases h
      exact ⟨[], n, raw, rest, rfl, rfl, hfeed⟩

end Assembly

theorem read_result (constants : Labels) (text : List Char) :
    (read constants text).result = readLines constants (lines text) := by
  have hnumbers : numberedLines text = numbered (lines text) := rfl
  unfold read readLines
  rw [hnumbers]
  rcases Assembly.empty.feedAll constants (numbered (lines text)) with ⟨a, _ | e⟩ <;> rfl

variable {ls : List (List Char)}

theorem readLines_ok_iff {families : List MetricFamily} : readLines constants ls = .ok families ↔
    ∃ a, Assembly.empty.feedAll constants (numbered ls) = (a, none) ∧ a.finish = families := by
  unfold readLines
  rcases Assembly.empty.feedAll constants (numbered ls) with ⟨a, _ | e⟩ <;> simp

/-- Where all lines are read, each one is read in the state that those above it left. -/
theorem exists_feed_of_readLines {above below : List (List Char)} {families : List MetricFamily}
    (h : readLines constants (above ++ raw :: below) = .ok families) :
    ∃ a b, Assembly.empty.feedAll constants (numbered above) = (a, none) ∧
      a.feed constants (above.length + 1) raw = .ok b := by
  obtain ⟨c, hfeed, -⟩ := readLines_ok_iff.mp h
  obtain ⟨more, hmore⟩ := numbered_cons above below raw
  rw [hmore, Assembly.feedAll_append] at hfeed
  split at hfeed
  · rename_i a ha
    simp only [Assembly.feedAll] at hfeed
    split at hfeed
    · rename_i b hb
      exact ⟨a, b, ha, hb⟩
    · cases hfeed
  · cases hfeed

/-- Lines are refused exactly if those above some line are read and that line is refused. -/
theorem readLines_error_iff : readLines constants ls = .error e ↔
    ∃ above raw below a, ls = above ++ raw :: below ∧
      Assembly.empty.feedAll constants (numbered above) = (a, none) ∧
      a.feed constants (above.length + 1) raw = .error e := by
  constructor
  · intro h
    unfold readLines at h
    split at h
    · cases h
    · rename_i a _ hfeed
      cases h
      obtain ⟨front, n, raw, back, hsplit, hfront, hline⟩ := Assembly.exists_of_feedAll_error hfeed
      obtain ⟨above, below, rfl, rfl, rfl⟩ := numbered_split hsplit
      exact ⟨above, raw, below, a, rfl, hfront, hline⟩
  · rintro ⟨above, raw, below, a, rfl, habove, hline⟩
    obtain ⟨more, hmore⟩ := numbered_cons above below raw
    unfold readLines
    rw [hmore, Assembly.feedAll_append, habove]
    simp only [Assembly.feedAll, hline]

end Feeding

end MetricArchive.Exposition
