import Mathlib.Order.Bounds.Basic
import MetricArchive.Proofs.Exposition.LabelOrder

/-!
# Constant labels

The labels of a sample are put behind the constant ones, and a label whose name is taken, be it by a
constant label or by one before it, is renamed until its name is free. Main statement: renaming
ends, and every label, constant or scraped, is kept with its value and in its place.
-/
namespace MetricArchive.Exposition

/-- The renaming of a label, round after round, from its own name to the one that it is given. -/
inductive Renamed (taken : List String) : Nat → String → String → Prop where
  | free {name : String} (h : name ∉ taken) : Renamed taken 0 name name
  | again {rounds : Nat} {name given : String} (h : name ∈ taken)
    (hr : Renamed taken rounds ("exported_" ++ name) given) : Renamed taken (rounds + 1) name given

section Renamed

variable {taken : List String} {name given : String} {rounds : Nat}

/-- Renaming stops at the first name that is not taken. -/
theorem renamed_iff : Renamed taken rounds name given ↔ given = exported rounds name ∧
    IsLeast {k | exported k name ∉ taken} rounds := by
  constructor
  · intro h
    induction h with
    | free h => exact ⟨rfl, h, fun _ _ => Nat.zero_le _⟩
    | again h _ ih =>
      obtain ⟨hgiven, hfree, hleast⟩ := ih
      refine ⟨hgiven, hfree, fun k hk => ?_⟩
      cases k with
      | zero => exact absurd h hk
      | succ k => exact Nat.succ_le_succ (hleast hk)
  · rintro ⟨rfl, hfree, hleast⟩
    induction rounds generalizing name with
    | zero => exact .free hfree
    | succ rounds ih =>
      have htaken : name ∈ taken := by
        by_contra hname
        exact absurd (hleast (a := 0) hname) (Nat.not_succ_le_zero rounds)
      exact .again htaken (ih hfree fun k hk => Nat.le_of_succ_le_succ (hleast (a := k + 1) hk))

/-- A name that is free is found in no more rounds than there are names taken. -/
theorem exists_renamed (merged : Labels) (name : String) :
    ∃ rounds ≤ merged.length, Renamed (merged.map (·.1)) rounds name (nextName merged name) := by
  obtain ⟨rounds, hgiven, hfree, hbelow⟩ := nextName_isFresh merged name
  rw [hgiven] at hfree
  have hleast : IsLeast {k | exported k name ∉ merged.map (·.1)} rounds :=
    ⟨hfree, fun k hk => Nat.le_of_not_lt fun hlt => hk (hbelow k hlt)⟩
  obtain ⟨enough, hle, henough⟩ := exists_exported_not_mem (merged.map (·.1)) name
  rw [List.length_map] at hle
  exact ⟨rounds, (hleast.2 henough).trans hle, renamed_iff.mpr ⟨hgiven, hleast⟩⟩

end Renamed

section Keeping

variable {constants scraped : Labels}

theorem withConstants_append_label (constants before : Labels) (l : String × String) :
    withConstants constants (before ++ [l]) = keep (withConstants constants before) l :=
  withConstants_append constants before [l]

theorem withConstants_length (constants scraped : Labels) :
    (withConstants constants scraped).length = constants.length + scraped.length := by
  induction scraped using List.reverseRecOn with
  | nil => rfl
  | append_singleton before l ih =>
    rw [withConstants_append_label, keep, List.length_append, List.length_append, ih]
    rfl

/-- What the first labels are given does not depend on those behind them. -/
theorem withConstants_take (constants scraped : Labels) (i : Nat) :
    (withConstants constants scraped).take (constants.length + i) =
      withConstants constants (scraped.take i) := by
  induction scraped using List.reverseRecOn with
  | nil => simp [withConstants_nil]
  | append_singleton before l ih =>
    have hlength := withConstants_length constants before
    rw [withConstants_append_label, keep]
    rcases Nat.lt_or_ge before.length i with hi | hi
    · have hall : (before ++ [l]).length ≤ i := by
        rw [List.length_append]
        exact hi
      rw [List.take_of_length_le hall, withConstants_append_label, keep, List.take_of_length_le]
      rw [List.length_append, hlength, List.length_singleton]
      omega
    · rw [List.take_append_of_le_length hi, List.take_append_of_le_length (by omega), ih]

/-- A label stands where it was written, under the name found for it beside those in front. -/
theorem withConstants_getElem? {i : Nat} {label : String × String} (h : scraped[i]? = some label) :
    (withConstants constants scraped)[constants.length + i]? =
      some (nextName (withConstants constants (scraped.take i)) label.1, label.2) := by
  obtain ⟨hi, rfl⟩ := List.getElem?_eq_some_iff.mp h
  have hlength : (withConstants constants (scraped.take i)).length = constants.length + i := by
    rw [withConstants_length, List.length_take, Nat.min_eq_left hi.le]
  have htake := withConstants_take constants scraped (i + 1)
  rw [List.take_succ_eq_append_getElem hi, withConstants_append_label, keep] at htake
  calc (withConstants constants scraped)[constants.length + i]?
      = ((withConstants constants scraped).take (constants.length + (i + 1)))[
          constants.length + i]? := (List.getElem?_take_of_lt (by omega)).symm
    _ = _ := by rw [htake, ← hlength, List.getElem?_concat_length]

/-- Every label is kept: the constant ones as they are, and a scraped one in its place behind them,
with its value and under the first name, of all that renaming gives, that no label in front has. -/
theorem withConstants_keeps (hc : (constants.map (·.1)).Nodup) (scraped : Labels) :
    ((withConstants constants scraped).map (·.1)).Nodup ∧
    (withConstants constants scraped).length = constants.length + scraped.length ∧
    (withConstants constants scraped).take constants.length = constants ∧
    ∀ i label, scraped[i]? = some label →
      let taken := ((withConstants constants scraped).take (constants.length + i)).map (·.1)
      ∃ k ≤ constants.length + i,
        Renamed taken k label.1 (exported k label.1) ∧
        IsLeast {k | exported k label.1 ∉ taken} k ∧
        (withConstants constants scraped)[constants.length + i]? =
          some (exported k label.1, label.2) := by
  refine ⟨withConstants_nodup hc scraped, withConstants_length constants scraped,
    withConstants_take constants scraped 0, ?_⟩
  intro i label h taken
  have htaken : taken = (withConstants constants (scraped.take i)).map (·.1) :=
    congrArg _ (withConstants_take constants scraped i)
  obtain ⟨k, hk, hrenamed⟩ := exists_renamed (withConstants constants (scraped.take i)) label.1
  rw [← htaken] at hrenamed
  obtain ⟨hname, hleast⟩ := renamed_iff.mp hrenamed
  have hrounds : k ≤ constants.length + i := by
    rw [withConstants_length, List.length_take] at hk
    omega
  rw [withConstants_getElem? h, hname]
  exact ⟨k, hrounds, hname ▸ hrenamed, hleast, rfl⟩

/-- A label that is renamed can push the labels behind it further. -/
theorem withConstants_keeps_pushed :
    let constants : Labels := [("job", "node"), ("exported_job", "agent")]
    let scraped : Labels := [("job", "a"), ("exported_exported_job", "b"), ("exported_job", "c")]
    (constants.map (·.1)).Nodup ∧
      (withConstants constants scraped).drop 2 = [("exported_exported_job", "a"),
        ("exported_exported_exported_job", "b"), ("exported_exported_exported_exported_job", "c")] ∧
      ∃ k ≤ 4, IsLeast {m | exported m "exported_job" ∉
          ((withConstants constants scraped).take 4).map (·.1)} k ∧
        (withConstants constants scraped)[4]? = some (exported k "exported_job", "c") := by
  intro constants scraped
  have hc : (constants.map (·.1)).Nodup := by decide
  obtain ⟨-, -, -, hkeeps⟩ := withConstants_keeps hc scraped
  obtain ⟨k, hk, -, hleast, hplace⟩ := hkeeps 2 ("exported_job", "c") rfl
  exact ⟨hc, by decide, k, hk, hleast, hplace⟩

end Keeping

end MetricArchive.Exposition
