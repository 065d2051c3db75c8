import MetricArchive.Proofs.Exposition.DescriptionGrammar
import MetricArchive.Proofs.Exposition.Feeding
import MetricArchive.Proofs.Exposition.LineBreaks

/-!
# Lines that say nothing

A line without words says nothing, and neither does a comment whose first word is no keyword.
Reading a line depends on what trimming leaves of it, and what a line does to the families does not
depend on its number. Main statement: lines that say nothing can be put in anywhere and blanks
around all lines without a change to what is read; a line that is refused is refused for the same
reason, at the number that it has now.
-/
namespace MetricArchive.Exposition

open Text

inductive Remark : List Char → Prop where
  | blank {line : List Char} (h : All isBlank line) : Remark line
  | comment {lead body : List Char} (hl : All isBlank lead)
    (hw : ∀ keyword : Keyword, (words body).head? ≠ some keyword.word.toList) :
    Remark (lead ++ '#' :: body)

inductive EditedLine where
  | added (line : List Char)
  | padded (lead line tail : List Char)

namespace EditedLine

/-- The line as it is now. -/
def text : EditedLine → List Char
  | .added line => line
  | .padded lead line tail => lead ++ (line ++ tail)

/-- The line as it was, if it was there before. -/
def origin? : EditedLine → Option (List Char)
  | .added _ => none
  | .padded _ line _ => some line

/-- An edit that ought to make no difference and breaks no line into two. -/
def Harmless : EditedLine → Prop
  | .added line => Remark line ∧ All isInline line
  | .padded lead _ tail => All isBlank (lead ++ tail) ∧ All isInline (lead ++ tail)

end EditedLine

variable {constants : Labels} {raw raw' : List Char}

theorem readLine_trim (h : trim raw = trim raw') :
    readLine constants raw = readLine constants raw' := by
  unfold readLine
  rw [h]

/-- A first word that is a keyword is the first of all words, whatever blanks follow. -/
theorem words_of_keyword? {core tail : List Char} {keyword : Keyword}
    (h : keyword? (cutWord core).1 = some keyword) (ht : All isBlank tail) :
    (words (core ++ tail)).head? = some keyword.word.toList := by
  obtain ⟨lead, hcore, hlead, -, hstop⟩ := exists_cutWord core
  have hword := keyword?_iff.mp h
  have hstop : Stops isInk ((cutWord core).2 ++ tail) := by
    refine hstop.append ?_
    cases tail with
    | nil => simp
    | cons c tail => simp [isInk, (all_cons.mp ht).1]
  rw [hword] at hcore
  rw [hcore, List.append_assoc, List.append_assoc, words_blanks hlead,
    words_word (keyword_word keyword) hstop]
  rfl

theorem Remark.readLine (h : Remark raw) : readLine constants raw = .ok .nothing := by
  cases h with
  | blank h => exact readLine_blank h
  | @comment lead body hl hw =>
    obtain ⟨tail, hbody, ht⟩ := exists_trimEnd body
    have hend : trimEnd ('#' :: trimEnd body) = '#' :: trimEnd body := by
      rw [trimEnd_eq_self, List.reverse_cons]
      exact (stops_trimEnd body).append (stops_cons.mpr (by decide))
    have htrim : trim (lead ++ '#' :: body) = '#' :: trimEnd body := by
      have hpadded : lead ++ '#' :: body = lead ++ ('#' :: trimEnd body ++ tail) := by
        rw [List.cons_append, ← hbody]
      rw [hpadded, trim_blanks hl ht]
      simpa using trim_ink (by decide) hend (all_nil (p := isBlank))
    have hplain : keyword? (cutWord (trimEnd body)).1 = none := by
      by_contra hsome
      obtain ⟨keyword, hkeyword⟩ := Option.ne_none_iff_exists'.mp hsome
      have hfirst := words_of_keyword? hkeyword ht
      rw [← hbody] at hfirst
      exact hw keyword hfirst
    simp only [Exposition.readLine, htrim, readComment, hplain]

def Refusal.moveTo (line : Nat) : Refusal → Refusal
  | .fault f => .fault { f with line }
  | .breakdown b => .breakdown b

theorem Refusal.moveTo_at (r : LineRefusal) (n m : Nat) : (r.at n).moveTo m = r.at m := by
  cases r <;> rfl

namespace Assembly

variable {a b a' : Assembly} {n m : Nat} {content : LineContent} {r : LineRefusal}

def silent (a : Assembly) : Assembly := { a with events := [] }

/-- The number of a line and earlier reports make no difference to the families. -/
theorem add_silent (h : a.silent = b.silent) (n m : Nat) (content : LineContent) :
    (a.add n content).map silent = (b.add m content).map silent := by
  obtain ⟨families, current, events⟩ := a
  obtain ⟨families', current', events'⟩ := b
  obtain ⟨rfl, rfl⟩ : families = families' ∧ current = current' := by simpa [silent] using h
  have hsamples : ∀ metric, hasSamples ⟨families, current, events⟩ metric =
      hasSamples ⟨families, current, events'⟩ metric := fun _ => rfl
  cases content with
  | nothing => rfl
  | sample s => rfl
  | help metric text =>
    simp only [add, hsamples]
    cases hasSamples ⟨families, current, events'⟩ metric <;> rfl
  | kind metric word =>
    simp only [add, hsamples]
    cases hasSamples ⟨families, current, events'⟩ metric with
    | true => rfl
    | false =>
      cases word with
      | none => rfl
      | some word =>
        simp only
        cases MetricKind.ofName? (String.ofList word) <;> rfl

/-- Lines that are read alike are accepted alike, and refused alike but for their numbers. -/
theorem feed_silent (h : a.silent = b.silent)
    (hread : readLine constants raw = readLine constants raw') (n m : Nat) :
    (∃ a' b', a.feed constants n raw = .ok a' ∧ b.feed constants m raw' = .ok b' ∧
      a'.silent = b'.silent) ∨
    ∃ r : LineRefusal, a.feed constants n raw = .error (r.at n) ∧
      b.feed constants m raw' = .error (r.at m) := by
  unfold feed
  rw [hread]
  cases readLine constants raw' with
  | error r => exact .inr ⟨r, rfl, rfl⟩
  | ok content =>
    have hadd := add_silent h n m content
    simp only [Except.bind]
    cases ha : a.add n content with
    | ok a' =>
      cases hb : b.add m content with
      | ok b' => exact .inl ⟨a', b', rfl, rfl, by simpa [ha, hb, Except.map] using hadd⟩
      | error r => simp [ha, hb, Except.map] at hadd
    | error r =>
      cases hb : b.add m content with
      | ok b' => simp [ha, hb, Except.map] at hadd
      | error r' =>
        obtain rfl : r = r' := by simpa [ha, hb, Except.map] using hadd
        exact .inr ⟨r, rfl, rfl⟩

theorem feed_remark (h : Remark raw) (b : Assembly) (m : Nat) :
    b.feed constants m raw = .ok b :=
  feed_ok h.readLine rfl

end Assembly

section Edits

variable {edits : List EditedLine}

theorem EditedLine.readLine_text {e : EditedLine} (h : e.Harmless) {line : List Char}
    (ho : e.origin? = some line) : readLine constants e.text = readLine constants line := by
  cases e with
  | added => cases ho
  | padded lead raw tail =>
    cases ho
    obtain ⟨hl, ht⟩ := all_append.mp h.1
    exact readLine_trim (trim_blanks hl ht)

/-- Where all lines are accepted, they still are, and the families are the same. -/
theorem Assembly.feedAll_edited {a b a' : Assembly} {ls ms : List (Nat × List Char)}
    (hv : ∀ e ∈ edits, e.Harmless) (hls : ls.map (·.2) = edits.filterMap (·.origin?))
    (hms : ms.map (·.2) = edits.map (·.text)) (h : a.silent = b.silent)
    (hfeed : a.feedAll constants ls = (a', none)) :
    ∃ b', b.feedAll constants ms = (b', none) ∧ a'.silent = b'.silent := by
  induction edits generalizing a b ls ms with
  | nil =>
    obtain rfl : ls = [] := by simpa using hls
    obtain rfl : ms = [] := by simpa using hms
    cases hfeed
    exact ⟨b, rfl, h⟩
  | cons e edits ih =>
    obtain ⟨he, hrest⟩ := List.forall_mem_cons.mp hv
    obtain ⟨⟨m, text⟩, ms, rfl, rfl, hmore⟩ := List.map_eq_cons_iff.mp hms
    cases e with
    | added line =>
      have hskip : b.feed constants m line = .ok b := feed_remark he.1 b m
      obtain ⟨b', hb', hsilent⟩ := ih hrest hls hmore h hfeed
      exact ⟨b', by simpa only [feedAll, EditedLine.text, hskip] using hb', hsilent⟩
    | padded lead line tail =>
      obtain ⟨⟨n, line⟩, ls, rfl, rfl, hline⟩ := List.map_eq_cons_iff.mp hls
      have hread : readLine constants (EditedLine.padded lead line tail).text =
          readLine constants line := EditedLine.readLine_text he rfl
      rcases feed_silent h hread.symm n m with ⟨a₁, b₁, ha, hb, hsilent⟩ | ⟨r, ha, -⟩
      · simp only [feedAll, ha] at hfeed
        obtain ⟨b', hb', hend⟩ := ih hrest hline hmore hsilent hfeed
        exact ⟨b', by simpa only [feedAll, hb] using hb', hend⟩
      · simp only [feedAll, ha] at hfeed
        cases hfeed

theorem readLines_edited (hv : ∀ e ∈ edits, e.Harmless) {families : List MetricFamily}
    (h : readLines constants (edits.filterMap (·.origin?)) = .ok families) :
    readLines constants (edits.map (·.text)) = .ok families := by
  obtain ⟨a, ha, rfl⟩ := readLines_ok_iff.mp h
  obtain ⟨b, hb, hsilent⟩ := Assembly.feedAll_edited hv (numbered_lines _) (numbered_lines _) rfl ha
  have hfamilies : a.families = b.families := (Assembly.mk.inj hsilent).1
  exact readLines_ok_iff.mpr ⟨b, hb, by rw [Assembly.finish, Assembly.finish, hfamilies]⟩

/-- The line that is refused is one from before, and it is refused where it stands now. -/
theorem readLines_edited_error (hv : ∀ e ∈ edits, e.Harmless) {e : Refusal}
    (h : readLines constants (edits.filterMap (·.origin?)) = .error e) :
    ∃ above lead line tail below, edits = above ++ .padded lead line tail :: below ∧
      (∀ f, e = .fault f → f.line = (above.filterMap (·.origin?)).length + 1) ∧
      readLines constants (edits.map (·.text)) = .error (e.moveTo (above.length + 1)) := by
  obtain ⟨front, line, back, a, hsplit, hfront, hline⟩ := readLines_error_iff.mp h
  obtain ⟨first, rest, rfl, rfl, hrest⟩ := List.filterMap_eq_append_iff.mp hsplit
  obtain ⟨skipped, x, below, rfl, hskipped, hx, -⟩ := List.filterMap_eq_cons_iff.mp hrest
  -- the lines put in directly above the line are accepted with those above them
  have habove : (first ++ skipped).filterMap (·.origin?) = first.filterMap (·.origin?) := by
    rw [List.filterMap_append, List.filterMap_eq_nil_iff.mpr hskipped, List.append_nil]
  have hv' : ∀ e ∈ first ++ skipped, e.Harmless := fun e he => hv e (by grind)
  obtain ⟨b, hb, hsilent⟩ := Assembly.feedAll_edited hv' ((numbered_lines _).trans habove.symm)
    (numbered_lines _) rfl hfront
  cases x with
  | added => cases hx
  | padded lead raw tail =>
    cases hx
    have hread : readLine constants (EditedLine.padded lead line tail).text =
        readLine constants line := EditedLine.readLine_text (hv _ (by simp)) rfl
    rcases Assembly.feed_silent hsilent hread.symm ((first.filterMap (·.origin?)).length + 1)
      ((first ++ skipped).length + 1) with ⟨a', b', ha, -⟩ | ⟨r, ha, hmoved⟩
    · cases hline.symm.trans ha
    · obtain rfl : e = r.at _ := Except.error.inj (hline.symm.trans ha)
      refine ⟨first ++ skipped, lead, line, tail, below, by simp, fun f hf => ?_, ?_⟩
      · rw [habove]
        exact Assembly.line_of_feed (hf ▸ ha)
      · rw [Refusal.moveTo_at]
        exact readLines_error_iff.mpr ⟨(first ++ skipped).map (·.text),
          (EditedLine.padded lead line tail).text, below.map (·.text), b, by simp, hb,
          by rwa [List.length_map]⟩

/-- Every edit of the lines of a text makes the lines of another text. -/
theorem exists_edited_text (hv : ∀ e ∈ edits, e.Harmless) {text : List Char}
    (ho : lines text = edits.filterMap (·.origin?)) :
    ∃ changed, lines changed = edits.map (·.text) := by
  refine ⟨(edits.map (·.text)).flatMap fun l => l ++ ['\n'], lines_flatMap fun l hl => ?_⟩
  obtain ⟨e, he, rfl⟩ := List.mem_map.mp hl
  cases e with
  | added line => exact (hv _ he).2
  | padded lead line tail =>
    have hline : line ∈ lines text := ho ▸ List.mem_filterMap.mpr ⟨_, he, rfl⟩
    obtain ⟨hl, ht⟩ := all_append.mp (hv _ he).2
    exact all_append.mpr ⟨hl, all_append.mpr ⟨inline_of_mem_lines hline, ht⟩⟩

/-- Whatever lines that say nothing are put into a text and whatever blanks around its lines: what
is read stays the same, and a fault stays the fault of its line. -/
theorem read_edited (constants : Labels) (text : List Char) (edits : List EditedLine)
    (hv : ∀ e ∈ edits, e.Harmless) (ho : lines text = edits.filterMap (·.origin?)) :
    (∃ changed, lines changed = edits.map (·.text)) ∧
    ∀ changed, lines changed = edits.map (·.text) →
      (∀ families, (read constants text).result = .ok families →
        (read constants changed).result = .ok families) ∧
      (∀ f, (read constants text).result = .error (.fault f) →
        ∃ above lead line tail below, edits = above ++ .padded lead line tail :: below ∧
          f.line = (above.filterMap (·.origin?)).length + 1 ∧
          (read constants changed).result =
            .error (.fault { f with line := above.length + 1 })) ∧
      ∀ b, (read constants text).result = .error (.breakdown b) →
        (read constants changed).result = .error (.breakdown b) := by
  refine ⟨exists_edited_text hv ho, fun changed hc => ?_⟩
  rw [read_result, read_result, ho, hc]
  refine ⟨fun families h => readLines_edited hv h, fun f h => ?_, fun b h => ?_⟩
  · obtain ⟨above, lead, line, tail, below, hsplit, hline, hmoved⟩ := readLines_edited_error hv h
    exact ⟨above, lead, line, tail, below, hsplit, hline f rfl, hmoved⟩
  · obtain ⟨above, _, _, _, _, -, -, hmoved⟩ := readLines_edited_error hv h
    exact hmoved

/-- A value is missing in the third line, which is the sixth one after the edit; a word that only
begins like a keyword makes no description, and a break may be any. -/
theorem read_edited_sixth_line :
    let text := "# TYPE a counter\na 1\nb\n".toList
    let edits : List EditedLine := [.added "#".toList,
      .padded [' '] "# TYPE a counter".toList ['\u00a0'], .added "\t#HELPFUL a b".toList,
      .padded ['\t', '\x1f'] "a 1".toList [], .added [' ', '\u3000'], .padded [] ['b'] [' ']]
    let changed :=
      "#\r\n # TYPE a counter\u00a0\u2028\t#HELPFUL a b\n\t\x1fa 1\x0c \u3000\nb ".toList
    (∀ e ∈ edits, e.Harmless) ∧ lines text = edits.filterMap (·.origin?) ∧
      lines changed = edits.map (·.text) ∧
      (read [] text).result = .error (.fault ⟨3, .missingValue, "b"⟩) ∧
      (read [] changed).result = .error (.fault ⟨6, .missingValue, "b"⟩) := by
  intro text edits changed
  have hv : ∀ e ∈ edits, e.Harmless := by
    have hsign : Remark "#".toList :=
      @Remark.comment [] [] (by decide) fun keyword => by cases keyword <;> decide
    have hword : Remark "\t#HELPFUL a b".toList :=
      @Remark.comment ['\t'] "HELPFUL a b".toList (by decide)
        fun keyword => by cases keyword <;> decide
    have hblank : Remark [' ', '\u3000'] := .blank (by decide)
    simp only [edits, List.forall_mem_cons, List.not_mem_nil, false_imp_iff, implies_true,
      and_true, EditedLine.Harmless]
    exact ⟨⟨hsign, by decide⟩, by decide, ⟨hword, by decide⟩, by decide, ⟨hblank, by decide⟩,
      by decide⟩
  have ho : lines text = edits.filterMap (·.origin?) := by decide
  have hc : lines changed = edits.map (·.text) := by decide
  have hrefused : (read [] text).result = .error (.fault ⟨3, .missingValue, "b"⟩) := by
    decide +kernel
  obtain ⟨-, hread⟩ := read_edited [] text edits hv ho
  obtain ⟨-, hfault, -⟩ := hread changed hc
  obtain ⟨above, lead, line, tail, below, hsplit, hline, hmoved⟩ := hfault _ hrefused
  have hcount : (above.filterMap (·.origin?)).length = 2 := by simpa using hline.symm
  have htake : edits.take above.length = above := by simp [hsplit]
  have hat : edits[above.length]? = some (.padded lead line tail) := by simp [hsplit]
  have hlength : above.length = 5 := by
    have hplaces : ∀ k < 6, ((edits.take k).filterMap (·.origin?)).length = 2 →
        (edits[k]?.bind (·.origin?)).isSome → k = 5 := by decide
    refine hplaces above.length (List.getElem?_eq_some_iff.mp hat).1 (by rw [htake, hcount]) ?_
    rw [hat]
    rfl
  rw [hlength] at hmoved
  exact ⟨hv, ho, hc, hrefused, hmoved⟩

end Edits

end MetricArchive.Exposition
