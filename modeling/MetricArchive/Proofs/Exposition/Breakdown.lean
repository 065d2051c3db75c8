import MetricArchive.Proofs.Exposition.Feeding
import MetricArchive.Proofs.Exposition.SampleGrammar
import MetricArchive.Source.Attempt

/-!
# Where reading breaks down

A reader promises families or a fault. It breaks the promise at two tokens of a sample line: a value
that is spelled like an infinity with a letter that only passes for an `i`, and a timestamp with
more digits than are read. Main statement: the promise is kept for exactly those payloads in which
no line that is reached holds such a token, and a source lives on after exactly those.
-/
namespace MetricArchive.Exposition

open Text

/-- The small letter that a letter passes for where case is ignored. -/
def plainLetter (c : Char) : Char := if c = 'İ' ∨ c = 'ı' then 'i' else c.toLower

/-- Passes for an infinity and names no number. -/
inductive LookalikeText : List Char → Prop where
  | intro {sign word : List Char} {negative : Bool} (hs : SignText sign negative)
    (hw : word.map plainLetter = ['i', 'n', 'f'] ∨
      word.map plainLetter = ['i', 'n', 'f', 'i', 'n', 'i', 't', 'y'])
    (hi : 'İ' ∈ word ∨ 'ı' ∈ word) : LookalikeText (sign ++ word)

/-- A whole number with more digits than are read, and how many it has. -/
inductive OverlongText : List Char → Nat → Prop where
  | plain {digits : List Char} (hd : All isDigit digits) (hl : 4300 < digits.length) :
    OverlongText digits digits.length
  | minus {digits : List Char} (hd : All isDigit digits) (hl : 4300 < digits.length) :
    OverlongText ('-' :: digits) digits.length

/-- Fields that break the reading of a line off. The value is read before the timestamp. -/
inductive FieldsBreak : List (List Char) → Breakdown → Prop where
  | value {value : List Char} {stamp : Option (List Char)} (hv : LookalikeText value) :
    FieldsBreak (value :: stamp.toList) (.unreadableNumber (String.ofList value))
  | timestamp {value stamp : List Char} {x : Binary64} {digits : Nat} (hv : NumberText value x)
    (ht : OverlongText stamp digits) : FieldsBreak [value, stamp] (.oversizedInteger digits)

/-- A sample line but for its fields, which break the reading off. -/
def Stalls (line : List Char) (b : Breakdown) : Prop :=
  ∃ name labels tail, HeadText line name labels tail ∧ FieldsBreak (words tail) b

def Passes (constants : Labels) (lines : List (List Char)) : Prop :=
  (Assembly.empty.feedAll constants (lines.zipIdx.map fun (l, i) => (i + 1, l))).2 = none

def BreaksDown (constants : Labels) (text : List Char) (b : Breakdown) : Prop :=
  ∃ above line below, lines text = above ++ line :: below ∧ Passes constants above ∧
    Stalls (trim line) b

inductive Payload where
  | text (cs : List Char)
  | bytes (bs : List UInt8)

namespace Payload

def read (constants : Labels) : Payload → Reading
  | .text cs => Exposition.read constants cs
  | .bytes bs => readBytes constants bs

/-- The characters, if there are any: bytes have to be UTF-8. -/
def text? : Payload → Option (List Char)
  | .text cs => some cs
  | .bytes bs => (Utf8.decode bs).toOption

end Payload

section Tokens

variable {token word cs : List Char} {b : Breakdown}

theorem passesFor_iff {small c : Char} (h : isAscii small = true) :
    passesFor small c = true ↔ plainLetter c = small := by
  unfold passesFor plainLetter
  by_cases hc : c = 'İ' ∨ c = 'ı'
  · have hlow : c.toLower ≠ small := by
      rintro rfl
      rcases hc with rfl | rfl <;> exact absurd h (by decide)
    have hpass : (c == 'İ' || c == 'ı') = true := by simpa using hc
    simp only [hpass, Bool.and_true, Bool.or_eq_true, beq_iff_eq, hlow, false_or, if_pos hc]
    exact eq_comm
  · simp only [hc, if_false]
    obtain ⟨hdot, hdotless⟩ := not_or.mp hc
    simp [hdot, hdotless]

theorem spells_iff_plainLetter (hw : All isAscii word) :
    spells word cs = true ↔ cs.map plainLetter = word := by
  induction word generalizing cs with
  | nil => cases cs <;> simp [spells]
  | cons w word ih =>
    obtain ⟨hw, hword⟩ := all_cons.mp hw
    cases cs with
    | nil => simp [spells]
    | cons c cs => simp [spells, passesFor_iff hw, ih hword]

/-- Only the two letters that pass for an `i` are no ASCII. -/
theorem isAscii_iff {c : Char} (h : isAscii (plainLetter c) = true) :
    isAscii c = true ↔ c ≠ 'İ' ∧ c ≠ 'ı' := by
  unfold plainLetter at h
  by_cases hc : c = 'İ' ∨ c = 'ı'
  · rcases hc with rfl | rfl <;> simp <;> decide
  · rw [if_neg hc] at h
    simp [isAscii_of_toLower h, not_or.mp hc]

theorem all_isAscii_iff (h : All isAscii (cs.map plainLetter)) :
    cs.all isAscii = true ↔ ¬ ('İ' ∈ cs ∨ 'ı' ∈ cs) := by
  induction cs with
  | nil => simp
  | cons c cs ih =>
    obtain ⟨hc, hcs⟩ := all_cons.mp h
    rw [List.all_cons, Bool.and_eq_true, isAscii_iff hc, ih hcs]
    simp only [List.mem_cons, eq_comm (b := c)]
    tauto

/-- A word that passes for an infinity starts with what passes for an `i`. -/
theorem infinite_head {rest : List Char} (h : word.map plainLetter = 'i' :: rest) :
    Stops isSign word ∧ readDecimal? word = none := by
  cases word with
  | nil => cases h
  | cons c word =>
    obtain ⟨hc, -⟩ := List.cons.inj h
    have hne : ∀ d : Char, plainLetter d ≠ 'i' → c ≠ d := by
      rintro d hd rfl
      exact hd hc
    have hdigit : isDigit c = false := by
      by_contra hd
      simp only [Bool.not_eq_false] at hd
      unfold plainLetter at hc
      split at hc
      · rename_i hi
        rcases hi with rfl | rfl <;> exact absurd hd (by decide)
      · rw [toLower_of_isDigit hd] at hc
        subst hc
        exact absurd hd (by decide)
    refine ⟨stops_cons.mpr ?_, ?_⟩
    · simp [isSign, hne '+' (by decide), hne '-' (by decide)]
    · have hpoint := hne '.' (by decide)
      simpa using readDecimal?_whole all_nil (stops_cons.mpr hdigit : Stops isDigit (c :: word))
        (by simpa using hpoint)

theorem LookalikeText.readValueToken? (h : LookalikeText token) :
    readValueToken? token = some .misspelled := by
  obtain ⟨hs, hw, hi⟩ := h
  rename_i sign word negative
  have hhead : Stops isSign word ∧ readDecimal? word = none :=
    hw.elim infinite_head infinite_head
  have hspelled : (spells ['i', 'n', 'f'] word ||
      spells ['i', 'n', 'f', 'i', 'n', 'i', 't', 'y'] word) = true := by
    rw [Bool.or_eq_true, spells_iff_plainLetter (by decide), spells_iff_plainLetter (by decide)]
    exact hw
  have hascii : word.all isAscii = false := by
    have hall : All isAscii (word.map plainLetter) := by
      rcases hw with hw | hw <;> rw [hw] <;> decide
    exact Bool.eq_false_iff.mpr fun ha => (all_isAscii_iff hall).mp ha hi
  simp [Exposition.readValueToken?, takeSign_append hs hhead.1, hhead.2, hspelled, hascii]

theorem lookalikeText_of_readValueToken? (h : readValueToken? token = some .misspelled) :
    LookalikeText token := by
  rcases hs : takeSign token with ⟨negative, body⟩
  obtain ⟨sign, hsign, rfl⟩ := takeSign_sound hs
  simp only [readValueToken?, hs] at h
  split at h
  · cases h
  · split at h
    · rename_i hword
      split at h
      · cases h
      · rename_i hascii
        rw [Bool.or_eq_true, spells_iff_plainLetter (by decide),
          spells_iff_plainLetter (by decide)] at hword
        have hall : All isAscii (body.map plainLetter) := by
          rcases hword with hw | hw <;> rw [hw] <;> decide
        exact .intro hsign hword (not_not.mp fun hi => hascii ((all_isAscii_iff hall).mpr hi))
    · split at h <;> cases h

theorem readValue_breakdown_iff : readValue token = .error (.breakdown b) ↔
    LookalikeText token ∧ b = .unreadableNumber (String.ofList token) := by
  unfold readValue
  constructor
  · intro h
    split at h
    · cases h
    · rename_i t ht
      split at h
      · cases h
      · rename_i hnone
        cases h
        cases t with
        | misspelled => exact ⟨lookalikeText_of_readValueToken? ht, rfl⟩
        | _ => cases hnone
  · rintro ⟨h, rfl⟩
    simp only [h.readValueToken?, ValueToken.number?]

theorem OverlongText.digits {n : Nat} (h : OverlongText token n) : ∃ negative digits,
    readInteger? token = some (negative, digits) ∧ digits.length = n ∧ digitLimit < n := by
  cases h with
  | plain hd hl => exact ⟨_, _, readInteger?_plain hd (by rintro rfl; cases hl), rfl, hl⟩
  | minus hd hl => exact ⟨_, _, readInteger?_minus hd (by rintro rfl; cases hl), rfl, hl⟩

theorem readTimestamp_breakdown_iff : readTimestamp token = .error (.breakdown b) ↔
    ∃ n, OverlongText token n ∧ b = .oversizedInteger n := by
  constructor
  · intro h
    unfold readTimestamp at h
    split at h
    · cases h
    · rename_i negative digits hint
      obtain ⟨hsign, hd, -⟩ := readInteger?_sound hint
      split at h
      · rename_i hl
        cases h
        rcases hsign with ⟨-, rfl⟩ | ⟨-, rfl⟩
        · exact ⟨_, .minus hd hl, rfl⟩
        · exact ⟨_, .plain hd hl, rfl⟩
      · split at h <;> cases h
  · rintro ⟨n, h, rfl⟩
    obtain ⟨negative, digits, hint, rfl, hl⟩ := h.digits
    simp only [readTimestamp, hint, if_pos hl]

end Tokens

section Orderly

variable {α β : Type} {r : Except LineRefusal α} {b : Breakdown}

/-- Whatever is wrong is told by a fault. -/
def Orderly (r : Except LineRefusal α) : Prop := ∀ b, r ≠ .error (.breakdown b)

theorem orderly_ok (x : α) : Orderly (.ok x : Except LineRefusal α) := nofun

theorem orderly_fault (cause : Cause) (token : List Char) :
    Orderly (.error (.fault cause token) : Except LineRefusal α) := nofun

theorem Orderly.map (h : Orderly r) (f : α → β) : Orderly (r.map f) := by
  cases r with
  | ok x => exact orderly_ok (f x)
  | error e => exact fun b he => h b (by simpa [Except.map] using he)

/-- Behind a reader that refuses with faults only, a breakdown comes from what follows. -/
theorem Orderly.bind_breakdown_iff (h : Orderly r) {f : α → Except LineRefusal β} :
    r.bind f = .error (.breakdown b) ↔ ∃ x, r = .ok x ∧ f x = .error (.breakdown b) := by
  cases r with
  | ok x => simp [Except.bind]
  | error e =>
    simp only [Except.bind, reduceCtorEq, false_and, exists_false, iff_false]
    exact fun he => h b (by simpa using he)

theorem readQuoted_orderly (cs : List Char) : Orderly (readQuoted cs) := by
  intro b h
  obtain ⟨_, _, _, -, -, ⟨⟩⟩ := readQuoted_eq_iff.mp h

theorem readItem_orderly (cs : List Char) : Orderly (readItem cs) := by
  unfold readItem
  split
  · exact orderly_fault _ _
  · split
    · split
      · rename_i quoted _
        split
        · exact orderly_ok _
        · rename_i e he
          rintro b ⟨⟩
          exact readQuoted_orderly quoted b he
      · exact orderly_fault _ _
    · exact orderly_fault _ _

theorem readLabels_orderly (line : List Char) (found : Labels) (cs : List Char) :
    Orderly (readLabels line found cs) := by
  fun_induction readLabels line found cs with
  | case1 | case4 | case7 => exact orderly_fault _ _
  | case2 | case6 => exact orderly_ok _
  | case3 cs found c more _ hstart e he =>
    rintro b ⟨⟩
    exact readItem_orderly _ b he
  | case5 => assumption

theorem readAfterName_orderly (line rest : List Char) : Orderly (readAfterName line rest) := by
  unfold readAfterName
  split
  · exact (readLabels_orderly _ _ _).map _
  · split
    · exact orderly_fault _ _
    · exact orderly_ok _

theorem readComment_orderly (line body : List Char) : Orderly (readComment line body) := by
  unfold readComment
  simp only
  split
  · exact orderly_ok _
  · split
    · exact orderly_fault _ _
    · split
      · exact orderly_ok _
      · exact orderly_fault _ _

theorem Assembly.add_orderly (a : Assembly) (line : Nat) (content : LineContent) :
    Orderly (a.add line content) := by
  unfold add
  split
  · exact orderly_ok _
  · exact orderly_ok _
  · split
    · exact orderly_fault _ _
    · exact orderly_ok _
  · split
    · exact orderly_fault _ _
    · split
      · exact orderly_fault _ _
      · split
        · exact orderly_fault _ _
        · exact orderly_ok _

end Orderly

section Lines

variable {line name raw : List Char} {constants : Labels} {b : Breakdown}

theorem map_breakdown_iff {α β : Type} {r : Except LineRefusal α} {f : α → β} :
    r.map f = .error (.breakdown b) ↔ r = .error (.breakdown b) := by
  cases r <;> simp [Except.map]

theorem readFields_breakdown_iff {fields : List (List Char)} :
    readFields name fields = .error (.breakdown b) ↔ FieldsBreak fields b := by
  constructor
  · intro h
    unfold readFields at h
    split at h
    · cases h
    · rename_i value
      obtain ⟨hv, rfl⟩ := readValue_breakdown_iff.mp (map_breakdown_iff.mp h)
      exact @FieldsBreak.value value none hv
    · rename_i value stamp
      cases hv : readValue value with
      | error e =>
        simp only [hv, bind, Except.bind, Except.error.injEq] at h
        subst h
        obtain ⟨hlook, rfl⟩ := readValue_breakdown_iff.mp hv
        exact @FieldsBreak.value value (some stamp) hlook
      | ok x =>
        cases ht : readTimestamp stamp with
        | ok t => simp [hv, ht, bind, Except.bind, pure, Except.pure] at h
        | error e =>
          simp only [hv, ht, bind, Except.bind, Except.error.injEq] at h
          subst h
          obtain ⟨n, hlong, rfl⟩ := readTimestamp_breakdown_iff.mp ht
          exact .timestamp (readValue_iff.mp hv) hlong
    · cases h
  · intro h
    cases h with
    | @value value stamp hv =>
      have hread := readValue_breakdown_iff.mpr ⟨hv, rfl⟩
      cases stamp with
      | none => exact map_breakdown_iff.mpr hread
      | some stamp => simp [readFields, hread, bind, Except.bind]
    | timestamp hv ht =>
      have hread := readTimestamp_breakdown_iff.mpr ⟨_, ht, rfl⟩
      simp [readFields, readValue_iff.mpr hv, hread, bind, Except.bind]

theorem LookalikeText.no_brace {token : List Char} (h : LookalikeText token) :
    All (· != '{') token := by
  obtain ⟨hs, hw, -⟩ := h
  refine all_append.mpr ⟨hs.all (by decide), fun c hc => ?_⟩
  have hplain : plainLetter c ∈ ['i', 'n', 'f', 'i', 'n', 'i', 't', 'y'] := by
    have hm := List.mem_map_of_mem (f := plainLetter) hc
    rcases hw with hw | hw <;> rw [hw] at hm
    · revert hm
      generalize plainLetter c = d
      simp only [List.mem_cons]
      tauto
    · exact hm
  by_contra hbrace
  simp only [bne_iff_ne, ne_eq, not_not] at hbrace
  subst hbrace
  exact absurd hplain (by decide)

/-- The first field of those that break the reading off is no label list. -/
theorem FieldsBreak.no_brace {fields : List (List Char)} (h : FieldsBreak fields b) :
    ∃ value rest, fields = value :: rest ∧ All (· != '{') value := by
  cases h with
  | value hv => exact ⟨_, _, rfl, hv.no_brace⟩
  | timestamp hv _ => exact ⟨_, _, rfl, hv.no_brace⟩

theorem readSample_breakdown_iff :
    readSample constants line = .error (.breakdown b) ↔ Stalls line b := by
  unfold readSample
  constructor
  · intro h
    split at h
    · cases h
    · rename_i name rest hcut
      obtain ⟨rfl, hn, -⟩ := cutName_iff.mp hcut
      obtain ⟨⟨labels, fields⟩, hafter, h⟩ := (readAfterName_orderly _ _).bind_breakdown_iff.mp h
      have hfields : FieldsBreak fields b := by
        rw [← @readFields_breakdown_iff name]
        cases hf : readFields name fields with
        | ok x => simp [hf, bind, Except.bind, pure, Except.pure] at h
        | error e => simpa [hf, bind, Except.bind] using h
      have hne : fields ≠ [] := by
        obtain ⟨value, rest, rfl, -⟩ := hfields.no_brace
        simp
      obtain ⟨items, tail, hhead, -, rfl⟩ := headText_of_readAfterName hn hafter hne
      exact ⟨_, _, _, hhead, hfields⟩
  · rintro ⟨name, items, tail, hhead, hfields⟩
    obtain ⟨value, more, hwords, hbrace⟩ := hfields.no_brace
    obtain ⟨rest, hcut, hafter⟩ := hhead.read (skipSpace_ne_brace hwords hbrace)
    have hread : readFields name (words tail) = .error (.breakdown b) :=
      readFields_breakdown_iff.mpr hfields
    simp [hcut, hafter, hread, bind, Except.bind]

/-- A line that stalls starts with a metric name. -/
theorem Stalls.head (h : Stalls line b) : ∃ c rest, line = c :: rest ∧ isMetricStart c = true := by
  obtain ⟨name, items, tail, hhead, -⟩ := h
  cases hhead with
  | bare hn =>
    cases hn with
    | intro hc => exact ⟨_, _, rfl, hc⟩
  | braced hn =>
    cases hn with
    | intro hc => exact ⟨_, _, rfl, hc⟩

theorem readLine_breakdown_iff :
    readLine constants raw = .error (.breakdown b) ↔ Stalls (trim raw) b := by
  unfold readLine
  split
  · rename_i hnil
    rw [hnil]
    refine iff_of_false nofun fun h => ?_
    obtain ⟨c, rest, h, -⟩ := h.head
    cases h
  · rename_i body hcomment
    rw [hcomment]
    refine iff_of_false (readComment_orderly _ _ b) fun h => ?_
    obtain ⟨c, rest, h, hc⟩ := h.head
    cases h
    exact absurd hc (by decide)
  · rw [map_breakdown_iff, readSample_breakdown_iff]

end Lines

section Payloads

variable {constants : Labels} {b : Breakdown}

theorem at_eq_breakdown_iff {n : Nat} {e : LineRefusal} :
    e.at n = .breakdown b ↔ e = .breakdown b := by
  cases e <;> simp [LineRefusal.at]

namespace Assembly

variable {a : Assembly}

theorem feed_breakdown_iff {n : Nat} {raw : List Char} :
    a.feed constants n raw = .error (.breakdown b) ↔ Stalls (trim raw) b := by
  have hadd : (readLine constants raw).bind (a.add n) = .error (.breakdown b) ↔
      readLine constants raw = .error (.breakdown b) := by
    cases readLine constants raw with
    | error e => simp [Except.bind]
    | ok content => simpa [Except.bind] using a.add_orderly n content b
  rw [← readLine_breakdown_iff, ← hadd]
  unfold feed
  split
  · rename_i hok
    simp [hok]
  · rename_i e he
    simp [he, at_eq_breakdown_iff]

end Assembly

theorem Reading.expected_iff (r : Reading) : ((∃ families, r.result = .ok families) ∨
    ∃ f, r.result = .error (.fault f)) ↔ ∀ b, r.result ≠ .error (.breakdown b) := by
  rcases r.result with (f | b) | families <;> simp

theorem passes_iff {above : List (List Char)} : Passes constants above ↔
    ∃ a, Assembly.empty.feedAll constants (numbered above) = (a, none) := by
  unfold Passes
  change (Assembly.empty.feedAll constants (numbered above)).2 = none ↔ _
  rcases Assembly.empty.feedAll constants (numbered above) with ⟨a, _ | e⟩ <;> simp

theorem read_breakdown_iff {text : List Char} :
    (read constants text).result = .error (.breakdown b) ↔ BreaksDown constants text b := by
  rw [read_result, readLines_error_iff, BreaksDown]
  constructor
  · rintro ⟨above, raw, below, a, hlines, habove, hline⟩
    exact ⟨above, raw, below, hlines, passes_iff.mpr ⟨a, habove⟩,
      Assembly.feed_breakdown_iff.mp hline⟩
  · rintro ⟨above, raw, below, hlines, hpass, hstall⟩
    obtain ⟨a, habove⟩ := passes_iff.mp hpass
    exact ⟨above, raw, below, a, hlines, habove, Assembly.feed_breakdown_iff.mpr hstall⟩

theorem Payload.read_breakdown_iff (p : Payload) :
    (p.read constants).result = .error (.breakdown b) ↔
      ∃ text, p.text? = some text ∧ BreaksDown constants text b := by
  cases p with
  | text cs => simp [Payload.read, Payload.text?, Exposition.read_breakdown_iff]
  | bytes bs =>
    simp only [Payload.read, Payload.text?, readBytes]
    cases Utf8.decode bs with
    | ok text => simp [Except.toOption, Exposition.read_breakdown_iff]
    | error position => simp [Except.toOption]

theorem failure?_ofReading {name : String} {now : Moment} {r : Reading} :
    (Attempt.ofReading name now r).failure? = none ↔ ∀ b, r.result ≠ .error (.breakdown b) := by
  unfold Attempt.ofReading Attempt.failure?
  rcases r.result with (f | b) | families <;> simp

/-- Reading keeps its promise, and a source goes on, for exactly the payloads that do not break the
reading off; and it is known which breakdown comes of which payload. -/
theorem payload_outcome_iff (constants : Labels) (p : Payload) :
    (((∃ families, (p.read constants).result = .ok families) ∨
        ∃ f, (p.read constants).result = .error (.fault f)) ↔
      ∀ text b, p.text? = some text → ¬ BreaksDown constants text b) ∧
    (∀ name now, (Attempt.ofReading name now (p.read constants)).failure? = none ↔
      ∀ text b, p.text? = some text → ¬ BreaksDown constants text b) ∧
    ∀ b, (p.read constants).result = .error (.breakdown b) ↔
      ∃ text, p.text? = some text ∧ BreaksDown constants text b := by
  have hnone : (∀ b, (p.read constants).result ≠ .error (.breakdown b)) ↔
      ∀ text b, p.text? = some text → ¬ BreaksDown constants text b := by
    simp only [ne_eq, p.read_breakdown_iff, not_exists, not_and]
    exact forall_comm
  refine ⟨?_, fun name now => ?_, fun b => p.read_breakdown_iff⟩
  · rw [Reading.expected_iff, hnone]
  · rw [failure?_ofReading, hnone]

/-- A dotless letter passes for the first one of an infinity. -/
theorem read_dotless_infinity :
    (read [] ['x', ' ', 'ı', 'n', 'f', '\n']).result =
        .error (.breakdown (.unreadableNumber "ınf")) ∧
      ¬ ((∃ families, (read [] ['x', ' ', 'ı', 'n', 'f', '\n']).result = .ok families) ∨
        ∃ f, (read [] ['x', ' ', 'ı', 'n', 'f', '\n']).result = .error (.fault f)) := by
  have h : (read [] ['x', ' ', 'ı', 'n', 'f', '\n']).result =
      .error (.breakdown (.unreadableNumber "ınf")) := by rfl
  refine ⟨h, ?_⟩
  simp [h]

end Payloads

end MetricArchive.Exposition
