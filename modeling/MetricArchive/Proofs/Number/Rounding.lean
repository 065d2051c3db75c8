import Mathlib.Algebra.Order.Field.Basic
import Mathlib.Algebra.Order.Ring.Rat
import Mathlib.Data.Rat.Cast.Order
import Mathlib.Tactic.Linarith
import Mathlib.Tactic.Positivity
import Mathlib.Tactic.Ring
import MetricArchive.Number.Layout

/-!
# Rounding exact numbers

A ratio is rounded to the nearest whole number, a half to the even neighbour, and it does not matter
how the ratio is written. Main statement: an exact time that is shown in milliseconds is shown as a
binary number of the same value is.
-/
namespace MetricArchive.Binary64

theorem roundQuotient_mul {k : ℕ} (hk : 0 < k) (n d : ℕ) :
    roundQuotient (k * n) (k * d) = roundQuotient n d := by
  have hlt : 2 * (k * (n % d)) < k * d ↔ 2 * (n % d) < d := by
    rw [Nat.mul_left_comm]
    exact Nat.mul_lt_mul_left hk
  have hgt : k * d < 2 * (k * (n % d)) ↔ d < 2 * (n % d) := by
    rw [Nat.mul_left_comm]
    exact Nat.mul_lt_mul_left hk
  simp only [roundQuotient, Nat.mul_div_mul_left _ _ hk, Nat.mul_mod_mul_left, gt_iff_lt, hlt, hgt]

theorem roundQuotient_congr {n d n' d' : ℕ} (hd : 0 < d) (hd' : 0 < d') (h : n * d' = n' * d) :
    roundQuotient n d = roundQuotient n' d' := by
  rw [← roundQuotient_mul hd' n d, ← roundQuotient_mul hd n' d', Nat.mul_comm d' n, h,
    Nat.mul_comm n' d, Nat.mul_comm d' d]

/-- What is left over is half a unit at most, and is half a unit only beside an even number. -/
theorem exists_roundQuotient (n : ℕ) {d : ℕ} (hd : 0 < d) : ∃ rest : ℤ,
    (n : ℤ) = roundQuotient n d * d + rest ∧ 2 * rest.natAbs ≤ d ∧
      (2 * rest.natAbs = d → Even (roundQuotient n d)) := by
  have hn : (n : ℤ) = (n / d : ℕ) * d + (n % d : ℕ) := by exact_mod_cast (Nat.div_add_mod' n d).symm
  have hr : n % d < d := Nat.mod_lt n hd
  unfold roundQuotient
  simp only [gt_iff_lt]
  split_ifs with hbelow habove
  · exact ⟨(n % d : ℕ), hn, by omega, by omega⟩
  · refine ⟨(n % d : ℕ) - d, ?_, by omega, by omega⟩
    rw [hn]
    push_cast
    ring
  · rcases Nat.mod_two_eq_zero_or_one (n / d) with heven | hodd
    · rw [heven, Nat.add_zero]
      exact ⟨(n % d : ℕ), hn, by omega, fun _ => Nat.even_iff.mpr heven⟩
    · rw [hodd]
      refine ⟨(n % d : ℕ) - d, ?_, by omega, fun _ => Nat.even_iff.mpr (by omega)⟩
      rw [hn]
      push_cast
      ring

theorem roundQuotient_nearest (n : ℕ) {d : ℕ} (hd : 0 < d) :
    |(n : ℚ) / d - roundQuotient n d| ≤ 1 / 2 ∧
      (|(n : ℚ) / d - roundQuotient n d| = 1 / 2 → Even (roundQuotient n d)) := by
  obtain ⟨rest, hn, hle, htie⟩ := exists_roundQuotient n hd
  have hdq : (0 : ℚ) < d := by exact_mod_cast hd
  have hoff : |(n : ℚ) / d - roundQuotient n d| = rest.natAbs / d := by
    have hcast : (n : ℚ) = roundQuotient n d * d + rest := by exact_mod_cast hn
    rw [hcast, add_div, mul_div_cancel_right₀ _ hdq.ne', add_sub_cancel_left, abs_div,
      abs_of_pos hdq, Nat.cast_natAbs, Int.cast_abs]
  rw [hoff, div_le_div_iff₀ hdq two_pos, div_eq_div_iff hdq.ne' two_ne_zero]
  refine ⟨?_, fun he => htie ?_⟩
  · rw [one_mul, mul_comm]
    exact_mod_cast hle
  · rw [one_mul, mul_comm] at he
    exact_mod_cast he

/-- An exact time in milliseconds, a half to the even neighbour. -/
def milliseconds (t : ℚ) : ℕ := roundQuotient (1000 * t.num.natAbs) t.den

def showSeconds (t : ℚ) : Binary64 := .ofRatio (t < 0) (milliseconds t) 1000

theorem natAbs_num {t : ℚ} (h : 0 ≤ t) : (t.num.natAbs : ℚ) = t * t.den := by
  rw [← Int.cast_natCast, Int.natAbs_of_nonneg (Rat.num_nonneg.mpr h), Rat.mul_den_eq_num]

theorem milliseconds_nearest {t : ℚ} (h : 0 ≤ t) : |1000 * t - milliseconds t| ≤ 1 / 2 ∧
    (|1000 * t - milliseconds t| = 1 / 2 → Even (milliseconds t)) := by
  have ht : 1000 * t = ((1000 * t.num.natAbs : ℕ) : ℚ) / t.den := by
    have hden : (t.den : ℚ) ≠ 0 := by exact_mod_cast t.den_ne_zero
    rw [Nat.cast_mul, natAbs_num h, ← mul_assoc, mul_div_cancel_right₀ _ hden]
    norm_num
  rw [ht]
  exact roundQuotient_nearest _ t.den_pos

/-- The number is a time rounded to milliseconds, in seconds. -/
def IsMilliseconds (x : Binary64) (t : ℚ) : Prop :=
  ∃ ms : ℕ, x = .ofRatio false ms 1000 ∧ |1000 * t - ms| ≤ 1 / 2 ∧
    (|1000 * t - ms| = 1 / 2 → Even ms)

theorem isMilliseconds_showSeconds {t : ℚ} (h : 0 ≤ t) : (showSeconds t).IsMilliseconds t := by
  refine ⟨milliseconds t, ?_, milliseconds_nearest h⟩
  rw [showSeconds, decide_eq_false h.not_gt]

/-- The value of a number without its sign as a ratio, and the ratio that is rounded in units of
ten to some negative power. -/
theorem exists_ratio (places m : ℕ) (e : ℤ) : ∃ num den : ℕ, 0 < den ∧
    exact false m e = (num : ℚ) / den ∧
      scaledPlaces places m e = roundQuotient (tenTo places * num) den := by
  have hpos : ∀ n, 0 < twoTo n := fun n => Nat.pow_pos two_pos
  rcases lt_trichotomy e 0 with he | rfl | he
  · refine ⟨m, twoTo (-e).toNat, hpos _, by simp [exact, he, Rat.mkRat_eq_div], ?_⟩
    simp [scaledPlaces, scale, he.le.not_gt, Nat.mul_comm m]
  · exact ⟨m, 1, one_pos, by simp [exact, Rat.mkRat_eq_div, twoTo],
      by simp [scaledPlaces, scale, twoTo, Nat.mul_comm m]⟩
  · refine ⟨m * twoTo e.toNat, 1, one_pos, by simp [exact, he.le.not_gt, Rat.mkRat_eq_div], ?_⟩
    simp [scaledPlaces, scale, he, Nat.mul_left_comm m]

/-- A binary number is shown in milliseconds as its exact value is. -/
theorem roundPlaces_of_toRat? {x : Binary64} {t : ℚ} (h : x.toRat? = some t) (ht : 0 < t) :
    x.roundPlaces 3 = showSeconds t := by
  cases x with
  | nan | infinite => cases h
  | finite negative m e =>
    obtain ⟨num, den, hden, hvalue, hscaled⟩ := exists_ratio 3 m e
    obtain rfl : exact negative m e = t := Option.some.inj h
    have hmagnitude : 0 ≤ exact false m e := by
      rw [hvalue]
      positivity
    cases negative with
    | true =>
      have hneg : exact true m e = -exact false m e := rfl
      linarith
    | false =>
      have hnum : (exact false m e).num.natAbs * den = num * (exact false m e).den := by
        have hden' : (den : ℚ) ≠ 0 := by exact_mod_cast hden.ne'
        have hcross : ((exact false m e).num.natAbs : ℚ) * den = num * (exact false m e).den := by
          rw [natAbs_num hmagnitude, mul_right_comm, hvalue, div_mul_cancel₀ _ hden']
        exact_mod_cast hcross
      rw [roundPlaces, hscaled, showSeconds, milliseconds, decide_eq_false ht.not_gt]
      rw [roundQuotient_congr hden (exact false m e).den_pos]
      · rfl
      · rw [Nat.mul_assoc, ← hnum, Nat.mul_assoc]
        rfl

end MetricArchive.Binary64
