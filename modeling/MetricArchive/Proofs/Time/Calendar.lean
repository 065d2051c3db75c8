import Mathlib.Order.Nat
import MetricArchive.Time.Calendar

/-!
# Days and dates

The days of the calendar are numbered without a gap: a year begins when the one before it is over,
and so does a month. Main statements: each day of the calendar has a date; what a clock can show
lies between the first and the last microsecond of the calendar, and each microsecond in between is
shown by some clock time.
-/
namespace MetricArchive

namespace Date

def yearLength (y : Nat) : Nat := if isLeapYear y then 366 else 365

/-- Years in groups of four hundred, of one hundred and of four. -/
theorem daysBeforeYear_eq (a : Nat) {b c d : Nat} (hb : b ≤ 3) (hc : c ≤ 24) (hd : d ≤ 3) :
    daysBeforeYear (400 * a + 100 * b + 4 * c + d + 1) =
      146097 * a + 36524 * b + 1461 * c + 365 * d := by
  simp only [daysBeforeYear, Nat.add_sub_cancel]
  omega

theorem exists_groups {y : Nat} (hy : 1 ≤ y) : ∃ a b c d,
    b ≤ 3 ∧ c ≤ 24 ∧ d ≤ 3 ∧ y = 400 * a + 100 * b + 4 * c + d + 1 :=
  ⟨(y - 1) / 400, (y - 1) % 400 / 100, (y - 1) % 100 / 4, (y - 1) % 4, by omega, by omega, by omega,
    by omega⟩

/-- The year after is a leap year if it ends a group of four, but not if it ends one of a hundred
unless it ends one of four hundred. -/
theorem yearLength_eq (a : Nat) {b c d : Nat} (hb : b ≤ 3) (hc : c ≤ 24) (hd : d ≤ 3) :
    yearLength (400 * a + 100 * b + 4 * c + d + 1) =
      if d = 3 ∧ (c = 24 → b = 3) then 366 else 365 := by
  have hleap : isLeapYear (400 * a + 100 * b + 4 * c + d + 1) = true ↔
      d = 3 ∧ (c = 24 → b = 3) := by
    simp only [isLeapYear, Bool.and_eq_true, Bool.or_eq_true, beq_iff_eq, bne_iff_ne]
    omega
  simp only [yearLength, hleap]

theorem daysBeforeYear_succ {y : Nat} (hy : 1 ≤ y) :
    daysBeforeYear (y + 1) = daysBeforeYear y + yearLength y := by
  obtain ⟨a, b, c, d, hb, hc, hd, rfl⟩ := exists_groups hy
  rw [daysBeforeYear_eq a hb hc hd, yearLength_eq a hb hc hd]
  simp only [daysBeforeYear, Nat.add_sub_cancel]
  split_ifs <;> omega

theorem daysBeforeYear_mono {y z : Nat} (hy : 1 ≤ y) (h : y ≤ z) :
    daysBeforeYear y ≤ daysBeforeYear z := by
  induction z, h using Nat.le_induction with
  | base => exact Nat.le_refl _
  | succ z hz ih =>
    rw [daysBeforeYear_succ (hy.trans hz)]
    omega

/-- Years have 365.2425 days in the mean, and so many of them are two days off at most. -/
theorem daysBeforeYear_mean (p : Nat) : 400 * daysBeforeYear (p + 1) ≤ 146097 * p + 400 ∧
    146097 * p ≤ 400 * daysBeforeYear (p + 1) + 800 := by
  simp only [daysBeforeYear, Nat.add_sub_cancel]
  omega

/-- A day lies in the year that is found for it. -/
theorem yearOf_spec (days : Nat) : 1 ≤ yearOf days ∧ daysBeforeYear (yearOf days) ≤ days ∧
    days < daysBeforeYear (yearOf days + 1) := by
  simp only [yearOf]
  have hguess : 146097 * (days * 400 / 146097) ≤ 400 * days ∧
      400 * days < 146097 * (days * 400 / 146097 + 1) := by omega
  generalize days * 400 / 146097 = g at hguess ⊢
  split_ifs with hbelow habove
  · cases g with
    | zero =>
      have hfirst : daysBeforeYear (0 + 1) = 0 := rfl
      omega
    | succ g =>
      have hmean := (daysBeforeYear_mean g).1
      simp only [Nat.add_sub_cancel]
      omega
  · have hmean : _ ≤ 400 * daysBeforeYear (g + 1 + 1 + 1) + 800 := (daysBeforeYear_mean (g + 2)).2
    omega
  · omega

/-- The days of some months on top of those given already. -/
theorem foldr_monthLength (y days : Nat) (months : List Nat) :
    months.foldr (fun i n => monthLength y (i + 1) + n) days =
      months.foldr (fun i n => monthLength y (i + 1) + n) 0 + days := by
  induction months with
  | nil => rw [List.foldr_nil, List.foldr_nil, Nat.zero_add]
  | cons i rest ih => rw [List.foldr_cons, List.foldr_cons, ih, Nat.add_assoc]

theorem daysBeforeMonth_succ (y : Nat) {m : Nat} (hm : 1 ≤ m) :
    daysBeforeMonth y (m + 1) = daysBeforeMonth y m + monthLength y m := by
  obtain ⟨k, rfl⟩ : ∃ k, m = k + 1 := ⟨m - 1, by omega⟩
  simp only [daysBeforeMonth, Nat.add_sub_cancel, List.range_succ, List.foldr_append,
    List.foldr_cons, List.foldr_nil, Nat.add_zero]
  exact foldr_monthLength y (monthLength y (k + 1)) (List.range k)

theorem daysBeforeMonth_last (y : Nat) : daysBeforeMonth y 13 = yearLength y := by
  unfold yearLength
  cases h : isLeapYear y <;> simp [daysBeforeMonth, List.range_succ, monthLength, h]

theorem daysBeforeMonth_mono (y : Nat) {m n : Nat} (hm : 1 ≤ m) (h : m ≤ n) :
    daysBeforeMonth y m ≤ daysBeforeMonth y n := by
  induction n, h using Nat.le_induction with
  | base => exact Nat.le_refl _
  | succ n hn ih =>
    rw [daysBeforeMonth_succ y (hm.trans hn)]
    omega

/-- A day of a year lies in the month that is found for it. -/
theorem splitMonths_spec {y fuel m rest : Nat} (hm : 1 ≤ m) (hfuel : fuel + m = 13)
    (hrest : daysBeforeMonth y m + rest < yearLength y) :
    1 ≤ (splitMonths y fuel m rest).1 ∧ (splitMonths y fuel m rest).1 ≤ 12 ∧
      (splitMonths y fuel m rest).2 < monthLength y (splitMonths y fuel m rest).1 ∧
      daysBeforeMonth y (splitMonths y fuel m rest).1 + (splitMonths y fuel m rest).2 =
        daysBeforeMonth y m + rest := by
  induction fuel generalizing m rest with
  | zero =>
    obtain rfl : m = 13 := by omega
    rw [daysBeforeMonth_last] at hrest
    omega
  | succ fuel ih =>
    rw [splitMonths]
    split_ifs with hin
    · exact ⟨hm, by omega, hin, rfl⟩
    · have hnext := daysBeforeMonth_succ y hm
      obtain ⟨hfirst, hlast, hlength, hsum⟩ :=
        @ih (m + 1) (rest - monthLength y m) (by omega) (by omega) (by omega)
      exact ⟨hfirst, hlast, hlength, by omega⟩

structure Valid (d : Date) : Prop where
  year : 1 ≤ d.year ∧ d.year ≤ 9999
  month : 1 ≤ d.month ∧ d.month ≤ 12
  day : 1 ≤ d.day ∧ d.day ≤ monthLength d.year d.month

theorem dayNumber_first : first.dayNumber = -719162 := rfl

theorem dayNumber_last : last.dayNumber = 2932896 := rfl

theorem hasDay_iff {n : Int} : hasDay n = true ↔ -719162 ≤ n ∧ n ≤ 2932896 := by
  rw [hasDay, dayNumber_first, dayNumber_last, Bool.and_eq_true, decide_eq_true_eq,
    decide_eq_true_eq]

theorem Valid.dayOfYear_lt {d : Date} (h : d.Valid) :
    daysBeforeMonth d.year d.month + (d.day - 1) < yearLength d.year := by
  have hmonth := daysBeforeMonth_succ d.year h.month.1
  have hmonths : daysBeforeMonth d.year (d.month + 1) ≤ daysBeforeMonth d.year 13 :=
    daysBeforeMonth_mono _ (by omega) (Nat.succ_le_succ h.month.2)
  have hday := h.day
  rw [daysBeforeMonth_last] at hmonths
  omega

theorem Valid.hasDay {d : Date} (h : d.Valid) : hasDay d.dayNumber := by
  have hday := h.dayOfYear_lt
  have hyear := daysBeforeYear_succ h.year.1
  have hyears : daysBeforeYear (d.year + 1) ≤ 3652059 :=
    daysBeforeYear_mono (by omega) (Nat.succ_le_succ h.year.2)
  rw [hasDay_iff, dayNumber, epochOffset]
  omega

/-- Each day of the calendar has a date. -/
theorem valid_ofDayNumber {n : Int} (h : hasDay n) :
    (ofDayNumber n).Valid ∧ (ofDayNumber n).dayNumber = n := by
  rw [hasDay_iff] at h
  obtain ⟨hyear, hbefore, hafter⟩ := yearOf_spec (n + epochOffset).toNat
  have hlast : yearOf (n + epochOffset).toNat ≤ 9999 := by
    by_contra hno
    have hmono : 3652059 ≤ daysBeforeYear (yearOf (n + epochOffset).toNat) :=
      daysBeforeYear_mono (y := 10000) (by omega) (by omega)
    simp only [epochOffset] at hbefore hmono
    omega
  have hsucc := daysBeforeYear_succ hyear
  have hjanuary : daysBeforeMonth (yearOf (n + epochOffset).toNat) 1 = 0 := rfl
  have hrest : daysBeforeMonth (yearOf (n + epochOffset).toNat) 1 +
      ((n + epochOffset).toNat - daysBeforeYear (yearOf (n + epochOffset).toNat)) <
        yearLength (yearOf (n + epochOffset).toNat) := by omega
  obtain ⟨hfirst, hdecember, hlength, hsum⟩ := splitMonths_spec (Nat.le_refl 1) rfl hrest
  refine ⟨⟨⟨hyear, hlast⟩, ⟨hfirst, hdecember⟩, ⟨Nat.succ_pos _, hlength⟩⟩, ?_⟩
  simp only [ofDayNumber, dayNumber, epochOffset, Nat.add_sub_cancel] at *
  omega

example : dayNumber ⟨1970, 1, 1⟩ = 0 := rfl

end Date

namespace CivilTime

variable {c : CivilTime} {w : Int}

structure Valid (c : CivilTime) : Prop where
  year : 1 ≤ c.year ∧ c.year ≤ 9999
  month : 1 ≤ c.month ∧ c.month ≤ 12
  day : 1 ≤ c.day ∧ c.day ≤ Date.monthLength c.year.toNat c.month.toNat
  hour : 0 ≤ c.hour ∧ c.hour ≤ 23
  minute : 0 ≤ c.minute ∧ c.minute ≤ 59
  second : 0 ≤ c.second ∧ c.second ≤ 59
  microsecond : 0 ≤ c.microsecond ∧ c.microsecond ≤ 999999

def date (c : CivilTime) : Date := ⟨c.year.toNat, c.month.toNat, c.day.toNat⟩

/-- Microseconds from the start of 1970 to what a clock shows. -/
def micros (c : CivilTime) : Int :=
  (((c.date.dayNumber * 24 + c.hour) * 60 + c.minute) * 60 + c.second) * 1000000 + c.microsecond

theorem wall_eq_ok_iff : c.wall = .ok w ↔ c.Valid ∧ w = c.micros := by
  unfold wall
  constructor
  · intro h
    split_ifs at h with hyear hmonth hday hhour hminute hsecond hmicrosecond
    cases h
    exact ⟨⟨by omega, by omega, by omega, by omega, by omega, by omega, by omega⟩, rfl⟩
  · rintro ⟨⟨hyear, hmonth, hday, hhour, hminute, hsecond, hmicrosecond⟩, rfl⟩
    rw [if_neg (by omega), if_neg (by omega), if_neg (by omega), if_neg (by omega),
      if_neg (by omega), if_neg (by omega), if_neg (by omega)]
    rfl

theorem Valid.date (h : c.Valid) : c.date.Valid := by
  have hyear := h.year
  have hmonth := h.month
  have hday := h.day
  refine ⟨?_, ?_, ?_⟩ <;> simp only [CivilTime.date] <;> omega

/-- A clock can show what lies on a day of the calendar, and nothing else. -/
theorem exists_wall_iff :
    (∃ c : CivilTime, c.wall = .ok w) ↔ Date.hasDay (Int.fdiv w 86400000000) := by
  rw [Int.fdiv_eq_ediv_of_nonneg _ (by decide)]
  constructor
  · rintro ⟨c, hc⟩
    obtain ⟨hvalid, rfl⟩ := wall_eq_ok_iff.mp hc
    have hday := hvalid.date.hasDay
    obtain ⟨-, -, -, hhour, hminute, hsecond, hmicrosecond⟩ := hvalid
    convert hday using 2
    simp only [micros]
    omega
  · intro h
    obtain ⟨⟨hyear, hmonth, hday⟩, hnumber⟩ := Date.valid_ofDayNumber h
    generalize Date.ofDayNumber (w / 86400000000) = d at hyear hmonth hday hnumber
    let c : CivilTime := ⟨d.year, d.month, d.day, w / 3600000000 % 24, w / 60000000 % 60,
      w / 1000000 % 60, w % 1000000⟩
    have hdate : c.date = d := by simp [c, CivilTime.date]
    refine ⟨c, wall_eq_ok_iff.mpr ⟨?_, ?_⟩⟩
    · constructor <;> simp only [c, Int.toNat_natCast] <;> omega
    · rw [micros, hdate, hnumber]
      simp only [c]
      omega

end CivilTime

end MetricArchive
