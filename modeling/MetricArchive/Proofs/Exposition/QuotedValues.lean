import MetricArchive.Proofs.Exposition.RenderedLine

/-!
# Values between quotes

Without line feeds there is one way to write a value between quotes. Main statement: a written value
with its closing quote is read as that value wherever it stands; and from any place of a line nothing
else is read, so that where no written value with its quote stands the line is refused, at its end
or at the first backslash that makes no escape.
-/
namespace MetricArchive.Exposition

variable {line text value rest : List Char} {start : Nat}
  {result : Except LineRefusal (List Char × List Char)}

/-- A line feed is the only character that may stand unescaped and is not written so. -/
theorem QuotedText.eq_escape (h : QuotedText text value) (hn : '\n' ∉ text) :
    text = escape value := by
  induction h with
  | nil => rfl
  | @plain c text value hq hb _ ih =>
    have hc : c ≠ '\n' := fun he => hn (he ▸ List.mem_cons_self)
    have hwritten : escapeChar c = [c] := by
      rw [escapeChar] <;> assumption
    rw [ih fun ht => hn (.tail _ ht), escape_cons, hwritten, List.singleton_append]
  | backslash _ ih =>
    rw [ih fun ht => hn (.tail _ (.tail _ ht))]
    rfl
  | quote _ ih =>
    rw [ih fun ht => hn (.tail _ (.tail _ ht))]
    rfl
  | newline _ ih =>
    rw [ih fun ht => hn (.tail _ (.tail _ ht))]
    rfl

theorem readQuoted_line_eq_iff (hn : '\n' ∉ line) : readQuoted line = result ↔
    ∃ value tail, line = escape value ++ tail ∧ Halts value tail result := by
  rw [readQuoted_eq_iff]
  constructor
  · rintro ⟨text, value, tail, ht, rfl, hhalts⟩
    have htext := ht.eq_escape fun h => hn (List.mem_append_left _ h)
    exact ⟨value, tail, htext ▸ rfl, hhalts⟩
  · rintro ⟨value, tail, rfl, hhalts⟩
    exact ⟨_, value, tail, quotedText_escape value, rfl, hhalts⟩

/-- What a line goes on with from a place is what lies between that place and a later one. -/
theorem drop_eq_append_iff (ht : text ≠ []) : line.drop start = text ++ rest ↔
    ∃ stop ≤ line.length, rest = line.drop stop ∧ line.extract start stop = text := by
  constructor
  · intro h
    have hlength := congrArg List.length h
    have hpos := List.length_pos_of_ne_nil ht
    rw [List.length_drop, List.length_append] at hlength
    refine ⟨start + text.length, by omega, ?_, ?_⟩
    · rw [← List.drop_drop, h, List.drop_left]
    · rw [List.extract_eq_take_drop, h, Nat.add_sub_cancel_left, List.take_left]
  · rintro ⟨stop, -, rfl, rfl⟩
    have hlt : start < stop := by
      by_contra hle
      exact ht (by simp [Nat.sub_eq_zero_of_le (Nat.le_of_not_lt hle)])
    have hcut := List.take_append_drop (stop - start) (line.drop start)
    rwa [List.drop_drop, Nat.add_sub_cancel' hlt.le, eq_comm] at hcut

theorem readQuoted_drop_eq_ok_iff (hn : '\n' ∉ line) :
    readQuoted (line.drop start) = .ok (value, rest) ↔
      ∃ stop ≤ line.length, rest = line.drop stop ∧
        line.extract start stop = escape value ++ ['"'] := by
  rw [← drop_eq_append_iff (by simp), List.append_assoc, List.singleton_append,
    readQuoted_line_eq_iff fun h => hn (List.mem_of_mem_drop h)]
  constructor
  · rintro ⟨_, _, htext, ⟨⟩⟩
    exact htext
  · intro htext
    exact ⟨value, _, htext, .closed rest⟩

theorem readQuoted_drop_refused_iff (hn : '\n' ∉ line) :
    (∃ cause token, readQuoted (line.drop start) = .error (.fault cause token)) ↔
      ∀ value, ∀ stop ≤ line.length, line.extract start stop ≠ escape value ++ ['"'] := by
  constructor
  · rintro ⟨cause, token, hrefused⟩ value stop hstop htext
    rw [(readQuoted_drop_eq_ok_iff hn).mpr ⟨stop, hstop, rfl, htext⟩] at hrefused
    cases hrefused
  · intro hnone
    cases h : readQuoted (line.drop start) with
    | ok found =>
      obtain ⟨stop, hstop, -, htext⟩ := (readQuoted_drop_eq_ok_iff hn).mp h
      exact absurd htext (hnone _ stop hstop)
    | error refusal =>
      obtain ⟨_, _, _, -, -, hhalts⟩ := readQuoted_eq_iff.mp h
      cases hhalts <;> exact ⟨_, _, rfl⟩

/-- A written value is read wherever it stands, up to behind its quote. From any place of a line a
value is read exactly if it is what is written between that place and a later one, and if none is
the line is refused where the quoted text halts. -/
theorem quotedValues_one_to_one :
    (∀ front value rest : List Char,
      readQuoted ((front ++ (escape value ++ '"' :: rest)).drop front.length) =
        .ok (value, rest)) ∧
    ∀ (line : List Char) (start : Nat), '\n' ∉ line →
      (∀ value rest, readQuoted (line.drop start) = .ok (value, rest) ↔
        ∃ stop ≤ line.length, rest = line.drop stop ∧
          line.extract start stop = escape value ++ ['"']) ∧
      ((∃ cause token, readQuoted (line.drop start) = .error (.fault cause token)) ↔
        ∀ value, ∀ stop ≤ line.length, line.extract start stop ≠ escape value ++ ['"']) ∧
      ∀ refusal, readQuoted (line.drop start) = .error refusal ↔
        ∃ value tail, line.drop start = escape value ++ tail ∧
          Halts value tail (.error refusal) := by
  refine ⟨fun front value rest => ?_, fun line start hn => ⟨?_, ?_, ?_⟩⟩
  · rw [List.drop_left]
    exact readQuoted_escape value rest
  · exact fun value rest => readQuoted_drop_eq_ok_iff hn
  · exact readQuoted_drop_refused_iff hn
  · exact fun refusal => readQuoted_line_eq_iff fun h => hn (List.mem_of_mem_drop h)

/-- In the first value three backslashes stand before a quote, and a backslash keeps the second one
open. -/
def backslashes : List Char :=
  ['l', '=', '"', 'a', '\\', '\\', '\\', '"', '"', ',', 'm', '=', '"', 'b', '\\', '"']

theorem quotedValues_one_to_one_backslashes :
    '\n' ∉ backslashes ∧
      readQuoted (backslashes.drop 3) = .ok (['a', '\\', '"'], backslashes.drop 9) ∧
      readQuoted (backslashes.drop 13) = .error (.fault .unterminatedValue ['b', '"']) := by
  have hn : '\n' ∉ backslashes := by decide
  refine ⟨hn, ?_, ?_⟩
  · apply ((quotedValues_one_to_one.2 backslashes 3 hn).1 _ _).mpr
    exact ⟨9, by decide, rfl, by decide⟩
  · apply ((quotedValues_one_to_one.2 backslashes 13 hn).2.2 _).mpr
    exact ⟨['b', '"'], [], by decide, .ended⟩

/-- A line feed that stands in the text is read, but not written so. -/
example : readQuoted ['\n', '"'] = .ok (['\n'], []) := rfl

end MetricArchive.Exposition
