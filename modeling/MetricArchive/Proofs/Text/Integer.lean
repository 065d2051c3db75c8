import Mathlib.Algebra.Group.Nat.Defs
import Mathlib.Data.List.Induction
import MetricArchive.Proofs.Text.Scan
import MetricArchive.Text.Integer

/-!
# Whole numbers read and written

Main statements: a whole number that has been read has no more digits than the limit allows, and any
such number is read back from its plain decimal text.
-/
namespace MetricArchive.Text

theorem digit?_lt {c : Char} {n : Nat} (h : digit? c = some n) : n < 10 := by
  obtain ⟨z, hz, rfl⟩ := Option.map_eq_some_iff.mp h
  have hrange := List.find?_some hz
  simp only [Bool.and_eq_true, decide_eq_true_eq] at hrange
  omega

theorem digitsValue_lt (cs : List Char) : digitsValue cs < 10 ^ cs.length := by
  induction cs using List.reverseRecOn with
  | nil => simp [digitsValue]
  | append_singleton cs c ih =>
    have hdigit : (digit? c).getD 0 < 10 := by
      cases hc : digit? c with
      | none => simp
      | some n => exact digit?_lt hc
    rw [digitsValue_append_singleton, List.length_append, List.length_singleton, Nat.pow_succ]
    omega

theorem natAbs_lt_of_readWhole {s : String} {n : Int} (h : readWhole s = .ok n) :
    n.natAbs < 10 ^ digitLimit := by
  unfold readWhole at h
  dsimp only at h
  generalize takeSign (dropPadding s.toList) = signed at h
  generalize takeGroupedDigits false signed.2 = grouped at h
  split at h
  · cases h
  split at h
  · cases h
  rename_i hlimit
  have hlt : digitsValue grouped.1 < 10 ^ digitLimit :=
    Nat.lt_of_lt_of_le (digitsValue_lt _) (Nat.pow_le_pow_right (by decide) (by omega))
  split at h
  · cases h
    split <;> omega
  · cases h

theorem takeGroupedDigits_digits {ds : List Char} (h : All isDigit ds) (afterDigit : Bool) :
    takeGroupedDigits afterDigit ds = (ds, []) := by
  induction ds generalizing afterDigit with
  | nil => rfl
  | cons d ds ih =>
    obtain ⟨hd, hds⟩ := all_cons.mp h
    rw [takeGroupedDigits, if_pos hd, ih hds]

theorem dropPadding_of_ink {cs : List Char} (h : All isInk cs) : dropPadding cs = cs := by
  have hstop {cs : List Char} (h : All isInk cs) : Stops isPadding cs := by
    intro c hc
    have hink : isBlank c = false := by simpa [isInk] using h c (List.mem_of_mem_head? hc)
    simp [isPadding, hink]
  have hfront := dropWhile_run all_nil (hstop h)
  have hback := dropWhile_run all_nil (hstop fun c hc => h c (List.mem_reverse.mp hc))
  rw [List.nil_append] at hfront hback
  rw [dropPadding, hfront, hback, List.reverse_reverse]

theorem takeSign_digits {ds : List Char} (h : All isDigit ds) : takeSign ds = (false, ds) := by
  unfold takeSign
  split
  · exact absurd (all_cons.mp h).1 (by decide)
  · exact absurd (all_cons.mp h).1 (by decide)
  · rfl

theorem readWhole_of_digits {s : String} {negative : Bool} {ds : List Char}
    (hs : takeSign (dropPadding s.toList) = (negative, ds)) (hd : All isDigit ds) (hne : ds ≠ [])
    (hl : ds.length ≤ digitLimit) :
    readWhole s = .ok (if negative then -(digitsValue ds : Int) else digitsValue ds) := by
  unfold readWhole
  simp [hs, takeGroupedDigits_digits hd, hne, Nat.not_lt.mpr hl]

theorem toList_toString (n : Int) : (toString n).toList =
    if n < 0 then '-' :: Nat.toDigits 10 n.natAbs else Nat.toDigits 10 n.natAbs := by
  rw [Int.toString_eq_repr]
  cases n with
  | ofNat n => simp [Int.repr]
  | negSucc n => simp [Int.repr]

theorem mem_toString {n : Int} {c : Char} (h : c ∈ (toString n).toList) :
    c = '-' ∨ isDigit c = true := by
  have hdigits := all_isDigit_toDigits n.natAbs
  rw [toList_toString] at h
  split at h
  · rcases List.mem_cons.mp h with rfl | h
    · exact .inl rfl
    · exact .inr (hdigits c h)
  · exact .inr (hdigits c h)

theorem readWhole_toString {n : Int} (h : n.natAbs < 10 ^ digitLimit) :
    readWhole (toString n) = .ok n := by
  have hdigits := all_isDigit_toDigits n.natAbs
  have hink : All isInk (Nat.toDigits 10 n.natAbs) := hdigits.imp fun _ => isInk_of_isDigit
  have hlen : (Nat.toDigits 10 n.natAbs).length ≤ digitLimit :=
    (Nat.length_toDigits_le_iff (by decide) (by decide)).mpr h
  have htext := toList_toString n
  split at htext
  · rename_i hneg
    have hsign : takeSign (dropPadding (toString n).toList) = (true, Nat.toDigits 10 n.natAbs) := by
      rw [htext, dropPadding_of_ink (all_cons.mpr ⟨by decide, hink⟩), takeSign]
    rw [readWhole_of_digits hsign hdigits Nat.toDigits_ne_nil hlen, digitsValue_toDigits,
      if_pos rfl]
    congr 1
    omega
  · rename_i hneg
    have hsign :
        takeSign (dropPadding (toString n).toList) = (false, Nat.toDigits 10 n.natAbs) := by
      rw [htext, dropPadding_of_ink hink, takeSign_digits hdigits]
    rw [readWhole_of_digits hsign hdigits Nat.toDigits_ne_nil hlen, digitsValue_toDigits,
      if_neg (by decide)]
    congr 1
    omega

end MetricArchive.Text
