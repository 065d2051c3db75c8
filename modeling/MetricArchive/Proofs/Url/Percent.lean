import MetricArchive.Proofs.Text.Utf8
import MetricArchive.Url.Percent

/-!
# Percent encoding undone

Main statements: an encoded text is decoded to what it was, whatever is kept apart from the percent
sign, and a text stays as it is under decoding exactly if no percent sign begins a triple in it.
-/
namespace MetricArchive.Text.Utf8

theorem decodeLossy_encoded (cs : List Char) :
    decodeLossy (cs.flatMap String.utf8EncodeChar) = cs := by
  induction cs with
  | nil => simp [decodeLossy]
  | cons c cs ih =>
    have hstep := decodeOne_iff.mpr (@List.flatMap_cons _ _ c cs String.utf8EncodeChar)
    rw [decodeLossy, dif_neg (by simp [String.utf8EncodeChar_ne_nil])]
    split
    · rename_i hsome
      rw [hstep] at hsome
      cases hsome
      rw [ih]
    · rename_i hnone
      rw [hstep] at hnone
      cases hnone

/-- The bytes of characters and single bytes, so many in all. -/
inductive Pieces : List UInt8 → Nat → Prop where
  | nil : Pieces [] 0
  | byte {bs : List UInt8} {n : Nat} (b : UInt8) (h : Pieces bs n) : Pieces (b :: bs) (n + 1)
  | char {bs : List UInt8} {n : Nat} (c : Char) (h : Pieces bs n) :
    Pieces (String.utf8EncodeChar c ++ bs) (n + 1)

/-- A byte that does not begin a character is a piece of its own. -/
theorem Pieces.tail {b : UInt8} {bs : List UInt8} {n : Nat} (h : Pieces (b :: bs) n)
    (hb : isTail b = true) : ∃ m < n, Pieces bs m := by
  generalize hall : b :: bs = all at h
  cases h with
  | nil => cases hall
  | byte _ h =>
    cases hall
    exact ⟨_, Nat.lt_succ_self _, h⟩
  | char c h =>
    rw [isTail_iff] at hb
    have hform := form_encode c
    generalize String.utf8EncodeChar c = bytes at hall hform
    generalize c.toNat = number at hform
    cases hform <;> cases hall <;> omega

theorem Pieces.tails {tails bs : List UInt8} {n : Nat} (h : Pieces (tails ++ bs) n)
    (ht : ∀ b ∈ tails, isTail b = true) : ∃ m ≤ n, Pieces bs m := by
  induction tails generalizing n with
  | nil => exact ⟨n, Nat.le_refl n, h⟩
  | cons b tails ih =>
    obtain ⟨hb, ht⟩ := List.forall_mem_cons.mp ht
    obtain ⟨m, hm, h⟩ := Pieces.tail h hb
    obtain ⟨k, hk, h⟩ := ih h ht
    exact ⟨k, by omega, h⟩

theorem isTail_of_isSecond {a b : UInt8} (h : isSecond a b = true) : isTail b = true :=
  isTail_iff.mpr (isSecond_iff.mp h).1

/-- All bytes of a form but the first continue it. -/
theorem Form.tails {bytes : List UInt8} {n : Nat} (h : Form bytes n) :
    ∃ a tails, bytes = a :: tails ∧ ∀ b ∈ tails, isTail b = true := by
  cases h with
  | one ha => exact ⟨_, _, rfl, nofun⟩
  | two ha ha' hb => exact ⟨_, _, rfl, by simpa using hb⟩
  | three ha ha' hb hc => exact ⟨_, _, rfl, by simpa using ⟨isTail_of_isSecond hb, hc⟩⟩
  | four ha ha' hb hc hd => exact ⟨_, _, rfl, by simpa using ⟨isTail_of_isSecond hb, hc, hd⟩⟩

theorem drop_brokenLength (a : UInt8) (bs : List UInt8) : ∃ tails,
    bs = tails ++ (a :: bs).drop (brokenLength (a :: bs)) ∧ ∀ b ∈ tails, isTail b = true := by
  unfold brokenLength
  split
  · rename_i _ b rest heq
    cases heq
    split
    · rename_i hlong
      have hb := isTail_of_isSecond (Bool.and_eq_true_iff.mp hlong).2
      split
      · rename_i hthird
        obtain ⟨c, rest⟩ | _ := rest
        · simp at hthird
        · rename_i c rest
          exact ⟨[b, c], rfl, by simpa [hb] using (Bool.and_eq_true_iff.mp hthird).2⟩
      · exact ⟨[b], rfl, by simpa using hb⟩
    · exact ⟨[], rfl, nofun⟩
  · exact ⟨[], rfl, nofun⟩

/-- No more characters come out than there are pieces. -/
theorem Pieces.decodeLossy_length {bs : List UInt8} {n : Nat} (h : Pieces bs n) :
    (decodeLossy bs).length ≤ n := by
  fun_induction decodeLossy bs generalizing n with
  | case1 => exact Nat.zero_le n
  | case2 bs hne c rest hstep ih =>
    have hbs := decodeOne_iff.mp hstep
    obtain ⟨m, hm, hrest⟩ : ∃ m < n, Pieces rest m := by
      cases h with
      | nil => exact absurd rfl hne
      | byte b h =>
        obtain ⟨a, tails, hform, ht⟩ := (form_encode c).tails
        rw [hform] at hbs
        cases hbs
        obtain ⟨m, hm, h⟩ := h.tails ht
        exact ⟨m, by omega, h⟩
      | char c' h =>
        rw [decodeOne_iff.mpr rfl] at hstep
        cases hstep
        exact ⟨_, Nat.lt_succ_self _, h⟩
    have hle := ih hrest
    rw [List.length_cons]
    omega
  | case3 bs hne hstep ih =>
    obtain ⟨m, hm, hrest⟩ : ∃ m < n, Pieces (bs.drop (brokenLength bs)) m := by
      cases h with
      | nil => exact absurd rfl hne
      | byte b h =>
        rename_i bs k
        obtain ⟨tails, hbs, ht⟩ := drop_brokenLength b bs
        rw [hbs] at h
        obtain ⟨m, hm, h⟩ := h.tails ht
        exact ⟨m, by omega, h⟩
      | char c h =>
        rw [decodeOne_iff.mpr rfl] at hstep
        cases hstep
    have hle := ih hrest
    rw [List.length_cons]
    omega

end MetricArchive.Text.Utf8

namespace MetricArchive.Url

open Text

variable {keeps : Char → Bool} {c : Char} {cs : List Char}

theorem toUTF8_singleton (c : Char) :
    (String.ofList [c]).toUTF8.data.toList = String.utf8EncodeChar c := by
  simp [List.utf8Encode]

theorem escapeChar_eq (c : Char) : escapeChar c = (String.utf8EncodeChar c).flatMap escapeByte := by
  rw [escapeChar, toUTF8_singleton]

theorem hexDigit?_capitalHex {n : Nat} (h : n < 16) : hexDigit? (capitalHex n) = some n := by
  have hall : ∀ i : Fin 16, hexDigit? (capitalHex i) = some i.val := by decide
  exact hall ⟨n, h⟩

theorem bytes_cons (hc : c ≠ '%') (cs : List Char) :
    bytes (c :: cs) = String.utf8EncodeChar c ++ bytes cs := by
  rw [bytes, toUTF8_singleton]
  exact fun _ _ _ h => absurd h hc

theorem bytes_triple {a b : Char} {x y : Nat} (ha : hexDigit? a = some x)
    (hb : hexDigit? b = some y) (cs : List Char) :
    bytes ('%' :: a :: b :: cs) = UInt8.ofNat (16 * x + y) :: bytes cs := by
  rw [bytes, ha, hb]

theorem bytes_escapeBytes (bs : List UInt8) (cs : List Char) :
    bytes (bs.flatMap escapeByte ++ cs) = bs ++ bytes cs := by
  induction bs with
  | nil => rfl
  | cons b bs ih =>
    have hb : b.toNat < 256 := UInt8.toNat_lt b
    have hbyte : UInt8.ofNat (16 * (b.toNat / 16) + b.toNat % 16) = b := by
      rw [Nat.div_add_mod, UInt8.ofNat_toNat]
    rw [List.flatMap_cons, List.append_assoc, escapeByte, List.cons_append, List.cons_append,
      List.cons_append, List.nil_append, bytes_triple (hexDigit?_capitalHex (by omega))
        (hexDigit?_capitalHex (by omega)), hbyte, ih, List.cons_append]

theorem bytes_encode (hp : keeps '%' = false) (cs more : List Char) :
    bytes (encode keeps cs ++ more) = cs.flatMap String.utf8EncodeChar ++ bytes more := by
  induction cs with
  | nil => rfl
  | cons c cs ih =>
    have hsplit : encode keeps (c :: cs) =
        (if keeps c then [c] else escapeChar c) ++ encode keeps cs := List.flatMap_cons
    rw [hsplit, List.append_assoc, List.flatMap_cons, List.append_assoc, ← ih]
    split
    · rename_i hc
      exact bytes_cons (fun h => by simp [h, hp] at hc) _
    · rw [escapeChar_eq, bytes_escapeBytes]

/-- An encoded text is decoded to what it was. -/
theorem decode_encode (hp : keeps '%' = false) (cs : List Char) :
    decode (encode keeps cs) = cs := by
  have hbytes := bytes_encode hp cs []
  rw [List.append_nil, bytes, List.append_nil] at hbytes
  rw [decode, hbytes, Utf8.decodeLossy_encoded]

/-- A character that is neither kept nor unreserved is never written, the percent sign apart. -/
theorem not_mem_encode {d : Char} (hd : keeps d = false) (hu : isUnreserved d = false)
    (hp : d ≠ '%') (cs : List Char) : d ∉ encode keeps cs := by
  have hhex : ∀ i : Fin 16, isUnreserved (capitalHex i) = true := by decide
  have hdigit : ∀ n < 16, d ≠ capitalHex n := by
    rintro n hn rfl
    rw [hhex ⟨n, hn⟩] at hu
    cases hu
  simp only [encode, List.mem_flatMap, not_exists, not_and]
  intro c _ hmem
  split at hmem
  · rename_i hc
    rw [List.mem_singleton.mp hmem, hc] at hd
    cases hd
  · rw [escapeChar_eq, List.mem_flatMap] at hmem
    obtain ⟨b, -, hmem⟩ := hmem
    have hb : b.toNat < 256 := UInt8.toNat_lt b
    simp only [escapeByte, List.mem_cons, List.not_mem_nil, or_false] at hmem
    rcases hmem with h | h | h
    · exact hp h
    · exact hdigit _ (by omega) h
    · exact hdigit _ (by omega) h

theorem encode_ne_nil (h : cs ≠ []) : encode keeps cs ≠ [] := by
  obtain ⟨c, cs, rfl⟩ := List.exists_cons_of_ne_nil h
  simp only [encode, List.flatMap_cons, ne_eq, List.append_eq_nil_iff, not_and]
  intro hnil
  split at hnil
  · cases hnil
  · rw [escapeChar_eq] at hnil
    obtain ⟨b, bs, hbytes⟩ := List.exists_cons_of_ne_nil (@String.utf8EncodeChar_ne_nil c)
    simp [hbytes, escapeByte] at hnil

theorem not_mem_encodePlus {d : Char} (hu : isUnreserved d = false) (hp : d ≠ '%') (hplus : d ≠ '+')
    (hblank : d ≠ ' ') (cs : List Char) : d ∉ encodePlus cs := by
  have hkeeps : (isUnreserved d || d == ' ') = false := by simp [hu, hblank]
  simp only [encodePlus, List.mem_map, not_exists, not_and]
  intro c hc heq
  split at heq
  · exact hplus heq.symm
  · subst heq
    exact not_mem_encode hkeeps hu hp cs hc

theorem encodePlus_ne_nil (h : cs ≠ []) : encodePlus cs ≠ [] := by
  rw [encodePlus, ne_eq, List.map_eq_nil_iff]
  exact encode_ne_nil h

/-- With blanks for plus signs, what was encoded for a query is decoded to what it was. -/
theorem decode_encodePlus (cs : List Char) :
    decode ((encodePlus cs).map fun c => if c == '+' then ' ' else c) = cs := by
  have hplus : '+' ∉ encode (fun c => isUnreserved c || c == ' ') cs :=
    not_mem_encode (by decide) (by decide) (by decide) cs
  have hback : (encodePlus cs).map (fun c => if c == '+' then ' ' else c) =
      encode (fun c => isUnreserved c || c == ' ') cs := by
    rw [encodePlus, List.map_map]
    refine (List.map_congr_left fun c hc => ?_).trans (List.map_id _)
    have hne : c ≠ '+' := fun h => hplus (h ▸ hc)
    by_cases hblank : c = ' '
    · simp [hblank]
    · simp [hblank, hne]
  rw [hback, decode_encode (by decide)]

def HasTriple (cs : List Char) : Prop :=
  ∃ before a b after, cs = before ++ '%' :: a :: b :: after ∧ (hexDigit? a).isSome ∧
    (hexDigit? b).isSome

theorem decode_ne_nil (h : cs ≠ []) : decode cs ≠ [] := by
  have hbytes : bytes cs ≠ [] := by
    fun_cases bytes cs with
    | case1 => exact absurd rfl h
    | case2 => simp
    | case3 => simp
    | case4 c rest =>
      simp [List.utf8Encode, String.utf8EncodeChar_ne_nil]
  rw [decode, Utf8.decodeLossy, dif_neg hbytes]
  split <;> simp

theorem hasTriple_cons : HasTriple (c :: cs) ↔
    (∃ a b rest, c :: cs = '%' :: a :: b :: rest ∧ (hexDigit? a).isSome ∧ (hexDigit? b).isSome) ∨
      HasTriple cs := by
  constructor
  · rintro ⟨_ | ⟨d, before⟩, a, b, after, hcs, ha, hb⟩
    · exact .inl ⟨a, b, after, hcs, ha, hb⟩
    · cases hcs
      exact .inr ⟨before, a, b, after, rfl, ha, hb⟩
  · rintro (⟨a, b, rest, hcs, ha, hb⟩ | ⟨before, a, b, after, rfl, ha, hb⟩)
    · exact ⟨[], a, b, rest, hcs, ha, hb⟩
    · exact ⟨c :: before, a, b, after, rfl, ha, hb⟩

/-- A percent sign that `bytes` does not take for a triple begins none. -/
theorem hasTriple_percent {a b : Char} {rest : List Char}
    (hno : ∀ x y, hexDigit? a = some x → hexDigit? b = some y → False) :
    HasTriple ('%' :: a :: b :: rest) ↔ HasTriple (a :: b :: rest) := by
  rw [hasTriple_cons, or_iff_right]
  rintro ⟨a, b, rest, heq, ha, hb⟩
  cases heq
  obtain ⟨x, hx⟩ := Option.isSome_iff_exists.mp ha
  obtain ⟨y, hy⟩ := Option.isSome_iff_exists.mp hb
  exact hno x y hx hy

theorem hasTriple_other (hno : ∀ a b rest, c = '%' → cs = a :: b :: rest → False) :
    HasTriple (c :: cs) ↔ HasTriple cs := by
  rw [hasTriple_cons, or_iff_right]
  rintro ⟨a, b, rest, heq, -, -⟩
  cases heq
  exact hno a b rest rfl rfl

theorem bytes_percent : [UInt8.ofNat '%'.toNat] = String.utf8EncodeChar '%' := by decide

/-- A triple makes one piece of three characters. -/
theorem pieces_bytes (cs : List Char) :
    ∃ n ≤ cs.length, Utf8.Pieces (bytes cs) n ∧ (HasTriple cs → n < cs.length) := by
  fun_induction bytes cs with
  | case1 =>
    refine ⟨0, Nat.le_refl 0, .nil, ?_⟩
    rintro ⟨before, a, b, after, h, -⟩
    cases before <;> cases h
  | case2 a b rest x y hb ha ih =>
    obtain ⟨n, hn, hpieces, -⟩ := ih
    have hlen : ('%' :: a :: b :: rest).length = rest.length + 3 := rfl
    exact ⟨n + 1, by omega, .byte _ hpieces, fun _ => by omega⟩
  | case3 a b rest hno ih =>
    obtain ⟨n, hn, hpieces, htriple⟩ := ih
    refine ⟨n + 1, Nat.succ_le_succ hn, .byte _ hpieces, fun h => ?_⟩
    exact Nat.succ_lt_succ (htriple ((hasTriple_percent hno).mp h))
  | case4 c rest hno ih =>
    obtain ⟨n, hn, hpieces, htriple⟩ := ih
    rw [toUTF8_singleton]
    refine ⟨n + 1, Nat.succ_le_succ hn, .char c hpieces, fun h => ?_⟩
    exact Nat.succ_lt_succ (htriple ((hasTriple_other hno).mp h))

theorem decode_length (cs : List Char) : (decode cs).length ≤ cs.length := by
  obtain ⟨n, hn, hpieces, -⟩ := pieces_bytes cs
  exact Nat.le_trans hpieces.decodeLossy_length hn

theorem bytes_of_not_hasTriple (h : ¬ HasTriple cs) :
    bytes cs = cs.flatMap String.utf8EncodeChar := by
  fun_induction bytes cs with
  | case1 => rfl
  | case2 a b rest x y hb ha ih =>
    have htriple : HasTriple ('%' :: a :: b :: rest) :=
      ⟨[], a, b, rest, rfl, Option.isSome_of_mem ha, Option.isSome_of_mem hb⟩
    exact absurd htriple h
  | case3 a b rest hno ih =>
    rw [hasTriple_percent hno] at h
    rw [ih h, @List.flatMap_cons _ _ '%', ← bytes_percent, List.singleton_append]
  | case4 c rest hno ih =>
    rw [hasTriple_other hno] at h
    rw [toUTF8_singleton, ih h, List.flatMap_cons]

/-- A text stays as it is under decoding exactly if it has no triple. -/
theorem decode_eq_self_iff : decode cs = cs ↔ ¬ HasTriple cs := by
  constructor
  · intro heq htriple
    obtain ⟨n, -, hpieces, hlt⟩ := pieces_bytes cs
    have hle : (decode cs).length ≤ n := hpieces.decodeLossy_length
    have hlt := hlt htriple
    rw [heq] at hle
    omega
  · intro h
    rw [decode, bytes_of_not_hasTriple h, Utf8.decodeLossy_encoded]

theorem decode_of_not_mem (h : '%' ∉ cs) : decode cs = cs := by
  rw [decode_eq_self_iff]
  rintro ⟨before, a, b, after, rfl, -⟩
  exact h (by simp)

end MetricArchive.Url
