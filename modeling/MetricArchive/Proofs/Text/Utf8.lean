import Mathlib.Data.List.Basic
import MetricArchive.Text.Utf8

/-!
# What is UTF-8

A character is one to four bytes of a certain form, which is never longer than it need be, and no
half of a surrogate pair has one. Main statement: decoding undoes the library's own encoding, and
fails for exactly those bytes that are the encoding of no text.
-/
namespace MetricArchive.Text.Utf8

theorem isTail_iff {b : UInt8} : isTail b = true ↔ 0x80 ≤ b.toNat ∧ b.toNat ≤ 0xbf := by
  simp [isTail, UInt8.le_iff_toNat_le]

theorem tailBits_eq {b : UInt8} (hlo : 0x80 ≤ b.toNat) (hhi : b.toNat ≤ 0xbf) :
    tailBits b = b.toNat - 0x80 := by
  rw [tailBits]
  omega

/-- Beside being one that continues a character, the second byte has to rule out a form longer than
needed, a surrogate and a number beyond the last character. -/
theorem isSecond_iff {a b : UInt8} : isSecond a b = true ↔
    (0x80 ≤ b.toNat ∧ b.toNat ≤ 0xbf) ∧ (a.toNat = 0xe0 → 0xa0 ≤ b.toNat) ∧
      (a.toNat = 0xed → b.toNat ≤ 0x9f) ∧ (a.toNat = 0xf0 → 0x90 ≤ b.toNat) ∧
      (a.toNat = 0xf4 → b.toNat ≤ 0x8f) := by
  have hlead : ∀ n : UInt8, (a == n) = true ↔ a.toNat = n.toNat := fun n => by
    rw [beq_iff_eq, UInt8.toNat_inj]
  simp only [isSecond, hlead, UInt8.reduceToNat]
  split_ifs
  all_goals
    simp only [Bool.and_eq_true, decide_eq_true_eq, UInt8.le_iff_toNat_le, UInt8.reduceToNat,
      isTail_iff]
    omega

/-- The bytes of a character with its number. -/
inductive Form : List UInt8 → Nat → Prop where
  | one {a : UInt8} (ha : a.toNat < 0x80) : Form [a] a.toNat
  | two {a b : UInt8} (ha : 0xc2 ≤ a.toNat) (ha' : a.toNat ≤ 0xdf) (hb : isTail b = true) :
    Form [a, b] ((a.toNat - 0xc0) * 0x40 + tailBits b)
  | three {a b c : UInt8} (ha : 0xe0 ≤ a.toNat) (ha' : a.toNat ≤ 0xef) (hb : isSecond a b = true)
    (hc : isTail c = true) :
    Form [a, b, c] (((a.toNat - 0xe0) * 0x40 + tailBits b) * 0x40 + tailBits c)
  | four {a b c d : UInt8} (ha : 0xf0 ≤ a.toNat) (ha' : a.toNat ≤ 0xf4) (hb : isSecond a b = true)
    (hc : isTail c = true) (hd : isTail d = true) :
    Form [a, b, c, d] ((((a.toNat - 0xf0) * 0x40 + tailBits b) * 0x40 + tailBits c) * 0x40 +
      tailBits d)

section Forms

variable {bytes bs rest : List UInt8} {c : Char} {n : Nat}

theorem Form.decodeOne (h : Form bytes n) (rest : List UInt8) :
    decodeOne (bytes ++ rest) = some (Char.ofNat n, rest) := by
  have hle : ∀ a b : UInt8, decide (a ≤ b) = decide (a.toNat ≤ b.toNat) := fun _ _ => rfl
  have hlt : ∀ a b : UInt8, a < b ↔ a.toNat < b.toNat := fun _ _ => .rfl
  cases h with
  | one ha => simp [Utf8.decodeOne, hlt, ha]
  | two ha ha' hb =>
    have hlong : ¬ _ < 0x80 := Nat.not_lt.mpr (Nat.le_trans (by decide) ha)
    simp [Utf8.decodeOne, hlt, hle, hlong, ha, ha', hb]
  | three ha ha' hb hc =>
    have hlong : ¬ _ < 0x80 := Nat.not_lt.mpr (Nat.le_trans (by decide) ha)
    have htwo : ¬ _ ≤ 0xdf := Nat.not_le.mpr (Nat.lt_of_lt_of_le (by decide) ha)
    simp [Utf8.decodeOne, hlt, hle, hlong, htwo, ha, ha', hb, hc]
  | four ha ha' hb hc hd =>
    have hlong : ¬ _ < 0x80 := Nat.not_lt.mpr (Nat.le_trans (by decide) ha)
    have htwo : ¬ _ ≤ 0xdf := Nat.not_le.mpr (Nat.lt_of_lt_of_le (by decide) ha)
    have hthree : ¬ _ ≤ 0xef := Nat.not_le.mpr (Nat.lt_of_lt_of_le (by decide) ha)
    simp [Utf8.decodeOne, hlt, hle, hlong, htwo, hthree, ha, ha', hb, hc, hd]

theorem form_of_decodeOne (h : Utf8.decodeOne bs = some (c, rest)) :
    ∃ bytes n, Form bytes n ∧ bs = bytes ++ rest ∧ c = Char.ofNat n := by
  have hle : ∀ a b : UInt8, a ≤ b ↔ a.toNat ≤ b.toNat := fun _ _ => .rfl
  have hlt : ∀ a b : UInt8, a < b ↔ a.toNat < b.toNat := fun _ _ => .rfl
  unfold Utf8.decodeOne at h
  split at h
  · cases h
  · rename_i a rest
    simp only [Bool.and_eq_true, decide_eq_true_eq, hle, hlt, UInt8.reduceToNat] at h
    split_ifs at h with hone htwo hthree hfour
    · cases h
      exact ⟨_, _, .one hone, rfl, rfl⟩
    · split at h
      · split_ifs at h with hb
        cases h
        exact ⟨_, _, .two htwo.1 htwo.2 hb, rfl, rfl⟩
      · cases h
    · split at h
      · split_ifs at h with hb
        cases h
        exact ⟨_, _, .three hthree.1 hthree.2 hb.1 hb.2, rfl, rfl⟩
      · cases h
    · split at h
      · split_ifs at h with hb
        cases h
        exact ⟨_, _, .four hfour.1 hfour.2 hb.1.1 hb.1.2 hb.2, rfl, rfl⟩
      · cases h

/-- The number of a form is that of a character: there are no surrogates among them. -/
theorem Form.valid (h : Form bytes n) : n.isValidChar := by
  unfold Nat.isValidChar
  cases h with
  | one ha => omega
  | two ha ha' hb =>
    rw [isTail_iff] at hb
    rw [tailBits_eq hb.1 hb.2]
    omega
  | three ha ha' hb hc =>
    obtain ⟨hb, hbounds⟩ := isSecond_iff.mp hb
    rw [isTail_iff] at hc
    rw [tailBits_eq hb.1 hb.2, tailBits_eq hc.1 hc.2]
    omega
  | four ha ha' hb hc hd =>
    obtain ⟨hb, hbounds⟩ := isSecond_iff.mp hb
    rw [isTail_iff] at hc hd
    rw [tailBits_eq hb.1 hb.2, tailBits_eq hc.1 hc.2, tailBits_eq hd.1 hd.2]
    omega

/-- A form is how the character of its number is encoded. -/
theorem Form.encode (h : Form bytes n) : String.utf8EncodeChar (Char.ofNat n) = bytes := by
  have hbyte : ∀ (m : Nat) (b : UInt8), m = b.toNat → UInt8.ofNat m = b := by
    rintro m b rfl
    exact UInt8.ofNat_toNat
  have hnumber : (Char.ofNat n).val.toNat = n := by
    rw [Char.ofNat, dif_pos h.valid]
    rfl
  simp only [String.utf8EncodeChar, hnumber]
  cases h with
  | one ha => rw [if_pos (by omega), hbyte _ _ rfl]
  | @two a b ha ha' hb =>
    rw [isTail_iff] at hb
    rw [tailBits_eq hb.1 hb.2, if_neg (by omega), if_pos (by omega), hbyte _ a (by omega),
      hbyte _ b (by omega)]
  | @three a b c ha ha' hb hc =>
    obtain ⟨hb, hbounds⟩ := isSecond_iff.mp hb
    rw [isTail_iff] at hc
    rw [tailBits_eq hb.1 hb.2, tailBits_eq hc.1 hc.2, if_neg (by omega), if_neg (by omega),
      if_pos (by omega), hbyte _ a (by omega), hbyte _ b (by omega), hbyte _ c (by omega)]
  | @four a b c d ha ha' hb hc hd =>
    obtain ⟨hb, hbounds⟩ := isSecond_iff.mp hb
    rw [isTail_iff] at hc hd
    rw [tailBits_eq hb.1 hb.2, tailBits_eq hc.1 hc.2, tailBits_eq hd.1 hd.2, if_neg (by omega),
      if_neg (by omega), if_neg (by omega), hbyte _ a (by omega), hbyte _ b (by omega),
      hbyte _ c (by omega), hbyte _ d (by omega)]

theorem form_encode (c : Char) : Form (String.utf8EncodeChar c) c.toNat := by
  have hvalid : c.toNat.isValidChar := c.valid
  have hbyte : ∀ n, n < 0x100 → (UInt8.ofNat n).toNat = n := fun n => UInt8.toNat_ofNat_of_lt'
  have htail : ∀ n, isTail (UInt8.ofNat (n % 64 + 128)) = true ∧
      tailBits (UInt8.ofNat (n % 64 + 128)) = n % 64 := by
    intro n
    have hn := hbyte (n % 64 + 128) (by omega)
    rw [isTail_iff, tailBits_eq (by omega) (by omega)]
    omega
  unfold Nat.isValidChar at hvalid
  simp only [String.utf8EncodeChar, ← Char.toNat_val] at *
  generalize c.val.toNat = v at *
  split_ifs with hone htwo hthree
  · have ha := hbyte v (by omega)
    have hform := Form.one (a := UInt8.ofNat v) (by omega)
    rwa [ha] at hform
  · obtain ⟨hb, hbits⟩ := htail v
    have ha := hbyte (v / 64 % 32 + 192) (by omega)
    have hform := Form.two (a := UInt8.ofNat (v / 64 % 32 + 192)) (by omega) (by omega) hb
    rw [ha, hbits] at hform
    convert hform using 1
    omega
  · obtain ⟨hc, hcbits⟩ := htail v
    obtain ⟨-, hbbits⟩ := htail (v / 64)
    have ha := hbyte (v / 4096 % 16 + 224) (by omega)
    have hb := hbyte (v / 64 % 64 + 128) (by omega)
    have hform := Form.three (a := UInt8.ofNat (v / 4096 % 16 + 224))
      (b := UInt8.ofNat (v / 64 % 64 + 128)) (by omega) (by omega) (isSecond_iff.mpr (by omega)) hc
    rw [ha, hbbits, hcbits] at hform
    convert hform using 1
    omega
  · obtain ⟨hd, hdbits⟩ := htail v
    obtain ⟨hc, hcbits⟩ := htail (v / 64)
    obtain ⟨-, hbbits⟩ := htail (v / 4096)
    have ha := hbyte (v / 262144 % 8 + 240) (by omega)
    have hb := hbyte (v / 4096 % 64 + 128) (by omega)
    have hform := Form.four (a := UInt8.ofNat (v / 262144 % 8 + 240))
      (b := UInt8.ofNat (v / 4096 % 64 + 128)) (by omega) (by omega) (isSecond_iff.mpr (by omega))
      hc hd
    rw [ha, hbbits, hcbits, hdbits] at hform
    convert hform using 1
    omega

/-- A character is read off the front of bytes exactly where its encoding stands there. -/
theorem decodeOne_iff : Utf8.decodeOne bs = some (c, rest) ↔
    bs = String.utf8EncodeChar c ++ rest := by
  constructor
  · intro h
    obtain ⟨bytes, n, hform, rfl, rfl⟩ := form_of_decodeOne h
    rw [hform.encode]
  · rintro rfl
    rw [(form_encode c).decodeOne, Char.ofNat_toNat]

end Forms

theorem decodeFrom_complete (start : Nat) (cs : List Char) :
    decodeFrom start (cs.flatMap String.utf8EncodeChar) = .ok cs := by
  induction cs generalizing start with
  | nil => simp [decodeFrom]
  | cons c cs ih =>
    have hstep := decodeOne_iff.mpr (@List.flatMap_cons _ _ c cs String.utf8EncodeChar)
    rw [decodeFrom, if_neg (by simp [String.utf8EncodeChar_ne_nil])]
    split
    · rename_i hnone
      rw [hstep] at hnone
      cases hnone
    · rename_i hsome
      rw [hstep] at hsome
      cases hsome
      simp [ih]

theorem decodeFrom_sound {start : Nat} {bs : List UInt8} {cs : List Char}
    (h : decodeFrom start bs = .ok cs) : bs = cs.flatMap String.utf8EncodeChar := by
  fun_induction decodeFrom start bs generalizing cs with
  | case1 start bs hempty =>
    cases h
    simpa using hempty
  | case2 => cases h
  | case3 start bs _ c rest hstep more hmore ih =>
    cases h
    rw [List.flatMap_cons, ← ih hmore]
    exact decodeOne_iff.mp hstep
  | case4 => cases h

/-- Bytes are decoded to a text if and only if they are its encoding. -/
theorem decode_eq_ok_iff {bs : List UInt8} {cs : List Char} :
    decode bs = .ok cs ↔ bs = cs.flatMap String.utf8EncodeChar :=
  ⟨decodeFrom_sound, fun h => h ▸ decodeFrom_complete 0 cs⟩

theorem exists_decode_error_iff {bs : List UInt8} :
    (∃ position, decode bs = .error position) ↔ ¬ bs.toByteArray.IsValidUTF8 := by
  have hvalid : bs.toByteArray.IsValidUTF8 ↔ ∃ cs, decode bs = .ok cs := by
    constructor
    · rintro ⟨cs, hcs⟩
      exact ⟨cs, decode_eq_ok_iff.mpr (List.toByteArray_inj.mp hcs)⟩
    · rintro ⟨cs, hcs⟩
      exact ⟨cs, congrArg List.toByteArray (decode_eq_ok_iff.mp hcs)⟩
  rw [hvalid]
  cases decode bs <;> simp

end MetricArchive.Text.Utf8
