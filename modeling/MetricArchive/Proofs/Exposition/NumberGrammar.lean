import MetricArchive.Exposition.Number
import MetricArchive.Proofs.Text.Scan
import MetricArchive.Proofs.Time.Instants

/-!
# The grammar of values and timestamps

What a number and a timestamp look like and which number and moment they name, without regard to
how they are read. Main statements: the readers accept exactly these texts and give what they name.
-/
namespace MetricArchive.Exposition

open Text

inductive SignText : List Char → Bool → Prop where
  | absent : SignText [] false
  | plus : SignText ['+'] false
  | minus : SignText ['-'] true

/-- Digits with a point or without one: the coefficient, and how many digits follow the point. -/
inductive MantissaText : List Char → Nat → Nat → Prop where
  | whole {digits : List Char} (hd : All isDigit digits) (hne : digits ≠ []) :
    MantissaText digits (digitsValue digits) 0
  | point {before after : List Char} (hb : All isDigit before) (ha : All isDigit after)
    (hne : before ++ after ≠ []) :
    MantissaText (before ++ '.' :: after) (digitsValue (before ++ after)) after.length

inductive ExponentText : List Char → Int → Prop where
  | absent : ExponentText [] 0
  | present {mark : Char} {sign digits : List Char} {negative : Bool}
    (hm : mark = 'e' ∨ mark = 'E') (hs : SignText sign negative) (hd : All isDigit digits)
    (hne : digits ≠ []) :
    ExponentText (mark :: (sign ++ digits)) (signed negative (digitsValue digits))

inductive NumberText : List Char → Binary64 → Prop where
  | decimal {sign mantissa exponent : List Char} {negative : Bool} {coefficient places : Nat}
    {power : Int} (hs : SignText sign negative)
    (hm : MantissaText mantissa coefficient places) (he : ExponentText exponent power) :
    NumberText (sign ++ (mantissa ++ exponent)) (.ofDecimal negative coefficient (power - places))
  | infinite {sign word : List Char} {negative : Bool} (hs : SignText sign negative)
    (hw : word.map Char.toLower = ['i', 'n', 'f'] ∨
      word.map Char.toLower = ['i', 'n', 'f', 'i', 'n', 'i', 't', 'y']) :
    NumberText (sign ++ word) (.infinite negative)
  | nan {sign word : List Char} {negative : Bool} (hs : SignText sign negative)
    (hw : word.map Char.toLower = ['n', 'a', 'n']) : NumberText (sign ++ word) .nan

def InCalendar (millis : Int) : Prop := Moment.firstMillis ≤ millis ∧ millis ≤ Moment.lastMillis

instance (millis : Int) : Decidable (InCalendar millis) :=
  inferInstanceAs (Decidable (_ ∧ _))

/-- A text and the moment that lies so many milliseconds after the start of 1970. -/
inductive TimestampText : List Char → Moment → Prop where
  | plain {digits : List Char} (hd : All isDigit digits) (hne : digits ≠ [])
    (hl : digits.length ≤ 4300) (hc : InCalendar (digitsValue digits)) :
    TimestampText digits (.utc ((digitsValue digits : Int) * 1000))
  | minus {digits : List Char} (hd : All isDigit digits) (hne : digits ≠ [])
    (hl : digits.length ≤ 4300) (hc : InCalendar (-(digitsValue digits : Int))) :
    TimestampText ('-' :: digits) (.utc (-(digitsValue digits : Int) * 1000))

def isSign (c : Char) : Bool := c == '+' || c == '-'

/-- Only the capital letters have another small letter. -/
theorem toLower_cases (c : Char) : c.toLower = c ∨ 65 ≤ c.toNat ∧ c.toNat ≤ 90 := by
  unfold Char.toLower
  split
  · rename_i hc
    exact .inr ⟨UInt32.le_iff_toNat_le.mp hc.1, UInt32.le_iff_toNat_le.mp hc.2⟩
  · exact .inl rfl

theorem toLower_of_isDigit {c : Char} (h : isDigit c = true) : c.toLower = c := by
  have key : ∀ z ∈ digitZeros, z = 0x30 ∨ 0x660 ≤ z := by decide
  simp only [isDigit, digit?, Option.isSome_map, List.find?_isSome, Bool.and_eq_true,
    decide_eq_true_eq] at h
  obtain ⟨z, hz, hlo, hhi⟩ := h
  refine (toLower_cases c).resolve_right fun hc => ?_
  have hz := key z hz
  omega

theorem isAscii_of_toLower {c : Char} (h : isAscii c.toLower = true) : isAscii c = true := by
  rcases toLower_cases c with he | hc
  · rwa [he] at h
  · simp only [isAscii, decide_eq_true_eq]
    omega

theorem isInk_of_toLower {c : Char} (h : isInk c.toLower = true) : isInk c = true := by
  rcases toLower_cases c with he | hc
  · rwa [he] at h
  · exact isInk_of_range (by omega) (by omega)

theorem stops_of_digits {p : Char → Bool} {cs : List Char} (h : All isDigit cs)
    (hp : ∀ c, isDigit c = true → p c = false) : Stops p cs := by
  cases cs with
  | nil => simp
  | cons c cs => exact stops_cons.mpr (hp c (all_cons.mp h).1)

theorem not_isSign_of_isDigit {c : Char} (h : isDigit c = true) : isSign c = false := by
  have hp : isDigit '+' = false := by decide
  have hm : isDigit '-' = false := by decide
  by_contra hs
  simp only [isSign, Bool.or_eq_true, beq_iff_eq, Bool.not_eq_false] at hs
  rcases hs with rfl | rfl <;> simp_all

theorem takeSign_append {sign body : List Char} {negative : Bool} (hs : SignText sign negative)
    (hb : Stops isSign body) : takeSign (sign ++ body) = (negative, body) := by
  cases hs with
  | plus => rfl
  | minus => rfl
  | absent =>
    cases body with
    | nil => rfl
    | cons c body =>
      have hc : ¬ (c = '+' ∨ c = '-') := by simpa [isSign] using hb
      simp only [List.nil_append]
      unfold takeSign
      split <;> simp_all

theorem takeSign_sound {cs body : List Char} {negative : Bool}
    (h : takeSign cs = (negative, body)) : ∃ sign, SignText sign negative ∧ cs = sign ++ body := by
  unfold takeSign at h
  split at h
  · cases h
    exact ⟨_, .minus, rfl⟩
  · cases h
    exact ⟨_, .plus, rfl⟩
  · cases h
    exact ⟨_, .absent, rfl⟩

theorem readExponent?_iff {cs : List Char} {power : Int} :
    readExponent? cs = some power ↔ ExponentText cs power := by
  constructor
  · intro h
    cases cs with
    | nil =>
      cases h
      exact .absent
    | cons c rest =>
      rcases hs : takeSign rest with ⟨negative, digits⟩
      obtain ⟨sign, hsign, rfl⟩ := takeSign_sound hs
      simp only [readExponent?, hs] at h
      split at h
      · rename_i hok
        simp only [Bool.and_eq_true, Bool.or_eq_true, beq_iff_eq, Bool.not_eq_true',
          List.isEmpty_eq_false_iff] at hok
        obtain ⟨⟨hmark, hne⟩, hd⟩ := hok
        cases h
        exact .present hmark hsign (all_iff.mpr hd) hne
      · cases h
  · intro h
    cases h with
    | absent => rfl
    | @present mark sign digits negative hm hs hd hne =>
      have hbody := stops_of_digits hd fun _ => not_isSign_of_isDigit
      have hmark : (mark == 'e' || mark == 'E') = true := by simpa using hm
      simp [readExponent?, takeSign_append hs hbody, hmark, hne, all_iff.mp hd, signed]

/-- What an exponent starts with is no digit, no point and no sign. -/
theorem ExponentText.stops {cs : List Char} {power : Int} (h : ExponentText cs power)
    {p : Char → Bool} (he : p 'e' = false) (hE : p 'E' = false) : Stops p cs := by
  cases h with
  | absent => simp
  | present hm =>
    rcases hm with rfl | rfl
    · simpa using he
    · simpa using hE

section Numerals

variable {before after tail : List Char}

theorem readDecimal?_whole (hb : All isDigit before) (ht : Stops isDigit tail)
    (hp : tail.head? ≠ some '.') : readDecimal? (before ++ tail) =
      if before = [] then none
      else (readExponent? tail).map fun power => (digitsValue before, power) := by
  have hdot : (tail.head? == some '.') = false := by simpa using hp
  simp [readDecimal?, takeWhile_run hb ht, dropWhile_run hb ht, hdot]

theorem readDecimal?_point (hb : All isDigit before) (ha : All isDigit after)
    (ht : Stops isDigit tail) : readDecimal? (before ++ '.' :: (after ++ tail)) =
      if before = [] ∧ after = [] then none
      else (readExponent? tail).map fun power =>
        (digitsValue (before ++ after), power - (after.length : Int)) := by
  have hdot : Stops isDigit ('.' :: (after ++ tail)) := stops_cons.mpr (by decide)
  simp [readDecimal?, takeWhile_run hb hdot, dropWhile_run hb hdot, takeWhile_run ha ht,
    dropWhile_run ha ht]

theorem readDecimal?_complete {mantissa exponent : List Char} {coefficient places : Nat}
    {power : Int} (hm : MantissaText mantissa coefficient places)
    (he : ExponentText exponent power) :
    readDecimal? (mantissa ++ exponent) = some (coefficient, power - places) := by
  have hstop := he.stops (p := isDigit) (by decide) (by decide)
  have hread := readExponent?_iff.mpr he
  cases hm with
  | whole hd hne =>
    have hdot : exponent.head? ≠ some '.' := by
      have := he.stops (p := (· == '.')) (by decide) (by decide)
      intro h
      simpa using this '.' h
    simp [readDecimal?_whole hd hstop hdot, hne, hread]
  | point hb ha hne =>
    have hnot : ¬ (_ = [] ∧ _ = []) := fun h => hne (List.append_eq_nil_iff.mpr h)
    rw [List.append_assoc, List.cons_append, readDecimal?_point hb ha hstop, if_neg hnot, hread]
    rfl

theorem readDecimal?_sound {cs : List Char} {coefficient : Nat} {power : Int}
    (h : readDecimal? cs = some (coefficient, power)) :
    ∃ mantissa exponent places whole, cs = mantissa ++ exponent ∧
      MantissaText mantissa coefficient places ∧ ExponentText exponent whole ∧
      power = whole - places := by
  obtain ⟨before, tail, rfl, hb, ht⟩ := exists_run isDigit cs
  by_cases hdot : tail.head? = some '.'
  · obtain ⟨rest, rfl⟩ := List.head?_eq_some_iff.mp hdot
    obtain ⟨after, exponent, rfl, ha, hr⟩ := exists_run isDigit rest
    rw [readDecimal?_point hb ha hr] at h
    split at h
    · cases h
    · rename_i hne
      obtain ⟨whole, hwhole, he⟩ := Option.map_eq_some_iff.mp h
      cases he
      refine ⟨before ++ '.' :: after, exponent, after.length, whole, by simp, .point hb ha ?_,
        readExponent?_iff.mp hwhole, rfl⟩
      exact fun hnil => hne (List.append_eq_nil_iff.mp hnil)
  · rw [readDecimal?_whole hb ht hdot] at h
    split at h
    · cases h
    · rename_i hne
      obtain ⟨whole, hwhole, he⟩ := Option.map_eq_some_iff.mp h
      cases he
      exact ⟨before, tail, 0, _, rfl, .whole hb hne, readExponent?_iff.mp hwhole, by simp⟩

end Numerals

theorem spells_iff {word cs : List Char} (hw : All isAscii word) :
    spells word cs = true ∧ All isAscii cs ↔ cs.map Char.toLower = word := by
  induction word generalizing cs with
  | nil => cases cs <;> simp [spells]
  | cons w word ih =>
    obtain ⟨hw, hword⟩ := all_cons.mp hw
    cases cs with
    | nil => simp [spells]
    | cons c cs =>
      -- the two letters that only pass for an `i` are no ASCII
      have hletter : passesFor w c = true ∧ isAscii c = true ↔ c.toLower = w := by
        constructor
        · rintro ⟨hpass, hascii⟩
          simp only [passesFor, Bool.or_eq_true, Bool.and_eq_true, beq_iff_eq] at hpass
          rcases hpass with rfl | ⟨-, rfl | rfl⟩
          · rfl
          · exact absurd hascii (by decide)
          · exact absurd hascii (by decide)
        · rintro rfl
          exact ⟨by simp [passesFor], isAscii_of_toLower hw⟩
      simp only [spells, Bool.and_eq_true, all_cons, List.map_cons, List.cons.injEq, ← ih hword,
        ← hletter]
      exact and_and_and_comm

theorem spells_nan {word : List Char} :
    spells ['n', 'a', 'n'] word = true ↔ word.map Char.toLower = ['n', 'a', 'n'] := by
  rcases word with _ | ⟨a, _ | ⟨b, _ | ⟨c, _ | ⟨d, rest⟩⟩⟩⟩ <;> simp [spells, passesFor]

/-- A spelled value starts with a letter, so it is neither signed nor a numeral. -/
theorem spelled_head {word : List Char} {w : Char} {rest : List Char}
    (h : word.map Char.toLower = w :: rest) (hw : w = 'i' ∨ w = 'n') :
    Stops isSign word ∧ readDecimal? word = none := by
  cases word with
  | nil => simp at h
  | cons c word =>
    obtain ⟨rfl, -⟩ := List.cons.inj h
    have hne : ∀ d : Char, d.toLower ≠ 'i' → d.toLower ≠ 'n' → c ≠ d := by
      rintro d hi hn rfl
      exact hw.elim hi hn
    have hdigit : isDigit c = false := by
      by_contra hd
      simp only [Bool.not_eq_false] at hd
      have hletters : isDigit 'i' = false ∧ isDigit 'n' = false := by decide
      rw [toLower_of_isDigit hd] at hw
      rcases hw with rfl | rfl <;> simp_all
    have hpoint := hne '.' (by decide) (by decide)
    refine ⟨?_, ?_⟩
    · have hplus := hne '+' (by decide) (by decide)
      have hminus := hne '-' (by decide) (by decide)
      simp [isSign, hplus, hminus]
    · have hstop : Stops isDigit (c :: word) := stops_cons.mpr hdigit
      simpa using readDecimal?_whole all_nil hstop (by simpa using hpoint)

theorem MantissaText.stops {cs rest : List Char} {coefficient places : Nat}
    (h : MantissaText cs coefficient places) {p : Char → Bool}
    (hd : ∀ c, isDigit c = true → p c = false) (hp : p '.' = false) : Stops p (cs ++ rest) := by
  cases h with
  | whole hds hne =>
    cases cs with
    | nil => exact absurd rfl hne
    | cons c cs => exact stops_cons.mpr (hd c (all_cons.mp hds).1)
  | @point before after hb =>
    rw [List.append_assoc]
    cases before with
    | nil => exact stops_cons.mpr hp
    | cons c before => exact stops_cons.mpr (hd c (all_cons.mp hb).1)

theorem readValueToken?_infinite {sign word : List Char} {negative : Bool}
    (hs : SignText sign negative)
    (hw : word.map Char.toLower = ['i', 'n', 'f'] ∨
      word.map Char.toLower = ['i', 'n', 'f', 'i', 'n', 'i', 't', 'y']) :
    readValueToken? (sign ++ word) = some (.infinite negative) := by
  have hhead : Stops isSign word ∧ readDecimal? word = none :=
    hw.elim (spelled_head · (.inl rfl)) (spelled_head · (.inl rfl))
  have hspelled : (spells ['i', 'n', 'f'] word ||
      spells ['i', 'n', 'f', 'i', 'n', 'i', 't', 'y'] word) = true ∧ All isAscii word := by
    rcases hw with hw | hw
    · obtain ⟨h, hascii⟩ := (spells_iff (by decide)).mpr hw
      simp [h, hascii]
    · obtain ⟨h, hascii⟩ := (spells_iff (by decide)).mpr hw
      simp [h, hascii]
  simp only [readValueToken?, takeSign_append hs hhead.1, hhead.2, hspelled.1, if_pos,
    all_iff.mp hspelled.2]

theorem readValueToken?_nan {sign word : List Char} {negative : Bool}
    (hs : SignText sign negative) (hw : word.map Char.toLower = ['n', 'a', 'n']) :
    readValueToken? (sign ++ word) = some .nan := by
  obtain ⟨hstop, hdecimal⟩ := spelled_head hw (.inr rfl)
  have hinf : ∀ rest, spells ('i' :: rest) word = false := by
    intro rest
    cases word with
    | nil => rfl
    | cons c word =>
      have hn := (List.cons.inj hw).1
      have hc : passesFor 'i' c = false := by
        by_contra hpass
        simp only [passesFor, hn, Bool.not_eq_false, Bool.or_eq_true, Bool.and_eq_true,
          beq_iff_eq] at hpass
        rcases hpass with h | ⟨-, rfl | rfl⟩
        · exact absurd h (by decide)
        · exact absurd hn (by decide)
        · exact absurd hn (by decide)
      simp [spells, hc]
  simp only [readValueToken?, takeSign_append hs hstop, hdecimal, hinf, Bool.or_self,
    spells_nan.mpr hw, Bool.false_eq_true, if_false, if_true]

theorem readValueToken?_sound {cs : List Char} {token : ValueToken} {x : Binary64}
    (h : readValueToken? cs = some token) (hx : token.number? = some x) : NumberText cs x := by
  rcases hs : takeSign cs with ⟨negative, body⟩
  obtain ⟨sign, hsign, rfl⟩ := takeSign_sound hs
  simp only [readValueToken?, hs] at h
  split at h
  · rename_i coefficient power hdecimal
    cases h
    cases hx
    obtain ⟨mantissa, exponent, places, whole, rfl, hm, he, rfl⟩ := readDecimal?_sound hdecimal
    exact .decimal hsign hm he
  · split at h
    · rename_i hword
      split at h
      · rename_i hascii
        cases h
        cases hx
        have hbody := all_iff.mpr hascii
        refine .infinite hsign ?_
        rcases Bool.or_eq_true_iff.mp hword with hword | hword
        · exact .inl ((spells_iff (by decide)).mp ⟨hword, hbody⟩)
        · exact .inr ((spells_iff (by decide)).mp ⟨hword, hbody⟩)
      · cases h
        cases hx
    · split at h
      · rename_i hword
        cases h
        cases hx
        exact .nan hsign (spells_nan.mp hword)
      · cases h

theorem NumberText.readValue {cs : List Char} {x : Binary64} (h : NumberText cs x) :
    readValue cs = .ok x := by
  unfold Exposition.readValue
  cases h with
  | @decimal sign mantissa exponent negative coefficient places power hs hm he =>
    have hstop : Stops isSign (mantissa ++ exponent) :=
      hm.stops (fun _ => not_isSign_of_isDigit) (by decide)
    simp only [readValueToken?, takeSign_append hs hstop, readDecimal?_complete hm he,
      ValueToken.number?]
  | infinite hs hw => simp only [readValueToken?_infinite hs hw, ValueToken.number?]
  | nan hs hw => simp only [readValueToken?_nan hs hw, ValueToken.number?]

/-- A token is read exactly where it is a number. -/
theorem readValue_iff {cs : List Char} {x : Binary64} : readValue cs = .ok x ↔ NumberText cs x := by
  refine ⟨fun h => ?_, NumberText.readValue⟩
  unfold readValue at h
  split at h
  · cases h
  · rename_i token htoken
    split at h
    · rename_i y hy
      cases h
      exact readValueToken?_sound htoken hy
    · cases h

theorem ofEpochMillis?_iff {millis : Int} {m : Moment} :
    Moment.ofEpochMillis? millis = some m ↔ InCalendar millis ∧ m = .utc (millis * 1000) := by
  rw [Moment.ofEpochMillis?_eq, InCalendar]
  split_ifs with h
  · simp [h, eq_comm]
  · simp [h]

section Integers

variable {cs digits : List Char} {negative : Bool}

theorem readInteger?_minus (hd : All isDigit digits) (hne : digits ≠ []) :
    readInteger? ('-' :: digits) = some (true, digits) := by
  simp [readInteger?, hne, all_iff.mp hd]

theorem readInteger?_plain (hd : All isDigit digits) (hne : digits ≠ []) :
    readInteger? digits = some (false, digits) := by
  have hminus : isDigit '-' = false := by decide
  unfold readInteger?
  split
  · simp_all
  · simp [hne, all_iff.mp hd]

theorem readInteger?_sound (h : readInteger? cs = some (negative, digits)) :
    (negative = true ∧ cs = '-' :: digits ∨ negative = false ∧ cs = digits) ∧
      All isDigit digits ∧ digits ≠ [] := by
  unfold readInteger? at h
  split at h
  all_goals
    split at h
    · rename_i hok
      simp only [Bool.and_eq_true, Bool.not_eq_true', List.isEmpty_eq_false_iff] at hok
      cases h
      simp [hok.1, all_iff.mpr hok.2]
    · cases h

end Integers

theorem readTimestamp_iff {cs : List Char} {m : Moment} :
    readTimestamp cs = .ok m ↔ TimestampText cs m := by
  constructor
  · intro h
    unfold readTimestamp at h
    split at h
    · cases h
    · rename_i negative digits hint
      obtain ⟨hsign, hd, hne⟩ := readInteger?_sound hint
      split at h
      · cases h
      · rename_i hlen
        have hlen : digits.length ≤ 4300 := Nat.not_lt.mp hlen
        split at h
        · rename_i t ht
          cases h
          obtain ⟨hc, rfl⟩ := ofEpochMillis?_iff.mp ht
          rcases hsign with ⟨rfl, rfl⟩ | ⟨rfl, rfl⟩
          · exact .minus hd hne hlen hc
          · exact .plain hd hne hlen hc
        · cases h
  · intro h
    unfold readTimestamp
    cases h with
    | plain hd hne hl hc =>
      have hlen : ¬ digitLimit < cs.length := Nat.not_lt.mpr hl
      have hm := ofEpochMillis?_iff.mpr ⟨hc, rfl⟩
      simp [readInteger?_plain hd hne, hlen, signed, hm]
    | @minus digits hd hne hl hc =>
      have hlen : ¬ digitLimit < digits.length := Nat.not_lt.mpr hl
      have hm := ofEpochMillis?_iff.mpr ⟨hc, rfl⟩
      simp [readInteger?_minus hd hne, hlen, signed, hm]

section Characters

variable {p : Char → Bool} {cs : List Char}

theorem SignText.all {negative : Bool} (h : SignText cs negative) (hs : All p ['+', '-', '.']) :
    All p cs := by
  simp only [all_cons] at hs
  cases h <;> simp [hs]

theorem MantissaText.all {coefficient places : Nat} (h : MantissaText cs coefficient places)
    (hd : ∀ c, isDigit c = true → p c = true) (hs : All p ['+', '-', '.']) : All p cs := by
  simp only [all_cons] at hs
  cases h with
  | whole hds => exact hds.imp hd
  | point hb ha => simp [hb.imp hd, ha.imp hd, hs]

theorem ExponentText.all {power : Int} (h : ExponentText cs power)
    (hd : ∀ c, isDigit c = true → p c = true) (hl : All p ['e', 'E'])
    (hs : All p ['+', '-', '.']) : All p cs := by
  simp only [all_cons] at hl
  cases h with
  | absent => simp
  | present hm hsign hds =>
    rcases hm with rfl | rfl <;> simp [hl, hsign.all hs, hds.imp hd]

theorem all_of_toLower {spelled : List Char} (h : cs.map Char.toLower = spelled)
    (hl : ∀ c, c.toLower ∈ spelled → p c = true) : All p cs :=
  fun c hc => hl c (h ▸ List.mem_map_of_mem hc)

/-- Numbers consist of digits, signs, points and a few letters. -/
theorem NumberText.all {x : Binary64} (h : NumberText cs x)
    (hd : ∀ c, isDigit c = true → p c = true) (hs : All p ['+', '-', '.']) (hE : All p ['e', 'E'])
    (hl : ∀ c, c.toLower ∈ ['i', 'n', 'f', 't', 'y', 'a'] → p c = true) : All p cs := by
  have hword : ∀ word spelled, word.map Char.toLower = spelled →
      spelled ⊆ ['i', 'n', 'f', 't', 'y', 'a'] → All p word :=
    fun _ _ hw hsub => all_of_toLower hw fun c hc => hl c (hsub hc)
  cases h with
  | decimal hsign hm he => simp [hsign.all hs, hm.all hd hs, he.all hd hE hs]
  | infinite hsign hw =>
    rw [all_append]
    exact ⟨hsign.all hs, hw.elim (hword _ _ · (by decide)) (hword _ _ · (by decide))⟩
  | nan hsign hw =>
    rw [all_append]
    exact ⟨hsign.all hs, hword _ _ hw (by decide)⟩

theorem NumberText.nonempty {x : Binary64} (h : NumberText cs x) : cs ≠ [] := by
  rintro rfl
  cases h.readValue

theorem NumberText.word {x : Binary64} (h : NumberText cs x) : Word cs where
  nonempty := h.nonempty
  ink := by
    refine h.all (fun _ => isInk_of_isDigit) (by decide) (by decide) fun c hc => ?_
    exact isInk_of_toLower ((by decide : All isInk ['i', 'n', 'f', 't', 'y', 'a']) _ hc)

theorem NumberText.no_brace {x : Binary64} (h : NumberText cs x) : All (· != '{') cs := by
  have hbrace : isDigit '{' = false := by decide
  refine h.all (fun c hc => ?_) (by decide) (by decide) fun c hc => ?_
  · rw [bne_iff_ne]
    rintro rfl
    simp_all
  · rw [bne_iff_ne]
    rintro rfl
    exact absurd hc (by decide)

theorem TimestampText.word {m : Moment} (h : TimestampText cs m) : Word cs := by
  cases h with
  | plain hd hne => exact ⟨hne, hd.imp fun _ => isInk_of_isDigit⟩
  | minus hd hne =>
    exact ⟨by simp, all_cons.mpr ⟨by decide, hd.imp fun _ => isInk_of_isDigit⟩⟩

end Characters

end MetricArchive.Exposition
