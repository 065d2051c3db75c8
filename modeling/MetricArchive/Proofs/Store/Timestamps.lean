import MetricArchive.Proofs.Exposition.NumberGrammar
import MetricArchive.Proofs.Store.Writing

/-!
# From a timestamp to the store

A timestamp is a whole number of milliseconds. It is read as a moment, and the moment is stored as
milliseconds again. Main statement: a number is read just if the calendar has that instant, and the
number that is stored is the one that was read.
-/
namespace MetricArchive

open Exposition Text

/-- A whole number in decimal digits of any script, not too many to be read, and what it denotes. -/
inductive IntegerText : List Char → Int → Prop where
  | plain {digits : List Char} (hd : All isDigit digits) (hne : digits ≠ [])
    (hl : digits.length ≤ 4300) : IntegerText digits (digitsValue digits)
  | minus {digits : List Char} (hd : All isDigit digits) (hne : digits ≠ [])
    (hl : digits.length ≤ 4300) : IntegerText ('-' :: digits) (-(digitsValue digits : Int))

variable {token : List Char} {n : Int} {m : Moment}

theorem IntegerText.readTimestamp (h : IntegerText token n) : Exposition.readTimestamp token =
    match Moment.ofEpochMillis? n with
    | some m => .ok m
    | none => .error (.fault .outOfRange token) := by
  cases h with
  | plain hd hne hl =>
    have hlen : ¬ digitLimit < token.length := Nat.not_lt.mpr hl
    simp only [Exposition.readTimestamp, readInteger?_plain hd hne, if_neg hlen, signed]
    rfl
  | @minus digits hd hne hl =>
    have hlen : ¬ digitLimit < digits.length := Nat.not_lt.mpr hl
    simp only [Exposition.readTimestamp, readInteger?_minus hd hne, if_neg hlen, signed]
    rfl

theorem IntegerText.readTimestamp_eq_ok_iff (h : IntegerText token n) :
    Exposition.readTimestamp token = .ok m ↔
      (-62135596800000 ≤ n ∧ n ≤ 253402300799999) ∧ m = .utc (n * 1000) := by
  rw [h.readTimestamp, Moment.ofEpochMillis?_eq, Moment.firstMillis, Moment.lastMillis]
  split_ifs with hn <;> simp [hn, eq_comm]

theorem IntegerText.readTimestamp_eq_error (h : IntegerText token n)
    (hn : ¬ (-62135596800000 ≤ n ∧ n ≤ 253402300799999)) :
    Exposition.readTimestamp token = .error (.fault .outOfRange token) := by
  rw [h.readTimestamp, Moment.ofEpochMillis?_eq, Moment.firstMillis, Moment.lastMillis, if_neg hn]

section Stored

variable {d : Disruption} {store committed : Store} {w : Writer} {s : Scrape} {x : Sample}

theorem Writer.exists_row_of_transact (hb : store.WellFormed) (hc : w.cache.Settled store)
    (h : (transact d store w s).1 = .ok committed) (hx : x ∈ s.families.flatMap (·.samples)) :
    ∃ row ∈ committed.points, committed.Shows row (s.observation x) := by
  obtain ⟨rows, hpoints, hrows⟩ := ((transact_sound d s hb hc).2 committed h).2.rows
  have hmem : s.observation x ∈ s.observations := by
    obtain ⟨f, hf, hx⟩ := List.mem_flatMap.mp hx
    exact List.mem_flatMap.mpr ⟨f, hf, List.mem_map_of_mem hx⟩
  obtain ⟨hlength, hshows⟩ := List.forall₂_iff_get.mp hrows
  obtain ⟨i, hi, hobservation⟩ := List.getElem_of_mem hmem
  have hrow : i < rows.length := hlength ▸ hi
  refine ⟨rows[i], hpoints ▸ List.mem_append_right _ (List.getElem_mem hrow), ?_⟩
  rw [← hobservation]
  exact hshows i hrow hi

theorem Scrape.timestamp_observation (h : x.timestamp = some m) :
    (s.observation x).timestamp = m.epochMillis := by
  simp only [observation, h, Moment.epochMillis_eq_floor]

end Stored

/-- What becomes of a timestamp on its way to the store. -/
structure TimestampKept (token : List Char) (n : Int) : Prop where
  read : (∃ m, readTimestamp token = .ok m) ↔ -62135596800000 ≤ n ∧ n ≤ 253402300799999
  refused : ¬ (-62135596800000 ≤ n ∧ n ≤ 253402300799999) →
    ∃ cause, readTimestamp token = .error (.fault cause token) ∧
      cause.reason = "timestamp out of range"
  shown : ∀ m, readTimestamp token = .ok m →
    m.offset = some 0 ∧ ∃ c : CivilTime, c.wall = .ok m.wall
  millis : ∀ m, readTimestamp token = .ok m → m.epochMillis = n
  stored : ∀ m, readTimestamp token = .ok m → ∀ (d : Disruption) (store committed : Store)
    (w : Writer) (s : Scrape), store.WellFormed → w.cache.Settled store →
      (w.transact d store s).1 = .ok committed →
        ∀ x ∈ s.families.flatMap (·.samples), x.timestamp = some m →
          ∃ row ∈ committed.points, row.timestamp = n ∧
            committed.IsSeries x.name x.labels.toFinset row.seriesId

theorem IntegerText.kept (h : IntegerText token n) : TimestampKept token n where
  read := by simp [h.readTimestamp_eq_ok_iff]
  refused hn := ⟨.outOfRange, h.readTimestamp_eq_error hn, rfl⟩
  shown m hm := by
    obtain ⟨hn, rfl⟩ := h.readTimestamp_eq_ok_iff.mp hm
    exact ⟨rfl, CivilTime.exists_wall_iff.mpr (Moment.hasDay_millis.mpr hn)⟩
  millis m hm := by
    obtain ⟨-, rfl⟩ := h.readTimestamp_eq_ok_iff.mp hm
    exact Moment.epochMillis_utc n
  stored m hm d store committed w s hb hc hcommitted x hx ht := by
    obtain ⟨-, rfl⟩ := h.readTimestamp_eq_ok_iff.mp hm
    obtain ⟨row, hrow, hshows⟩ := Writer.exists_row_of_transact hb hc hcommitted hx
    refine ⟨row, hrow, ?_, hshows.series⟩
    rw [hshows.timestamp, Scrape.timestamp_observation ht, Moment.epochMillis_utc]

/-- A timestamp is kept as it is if the calendar has it, and is refused otherwise. Whatever clock a
moment was read off, its milliseconds are its microseconds over a thousand, rounded down, so they
keep the order of moments. -/
theorem timestamps_survive :
    (∀ token n, IntegerText token n → TimestampKept token n) ∧
    (∀ c : CivilTime, c.Valid → ∀ offset : Option Int, ∃ wall, c.wall = .ok wall ∧
      (Moment.reading wall offset).epochMillis =
        ⌊((c.micros - offset.getD 0 : Int) : ℚ) / 1000⌋) ∧
    ∀ m₁ m₂ : Moment, m₁.micros ≤ m₂.micros → m₁.epochMillis ≤ m₂.epochMillis :=
  ⟨fun _ _ h => h.kept,
    fun c hc offset => ⟨c.micros, CivilTime.wall_eq_ok_iff.mpr ⟨hc, rfl⟩,
      Moment.epochMillis_eq_floor ⟨c.micros, offset⟩⟩,
    fun _ _ => Moment.epochMillis_mono⟩

/-- The last millisecond before 1970, as a number and on a clock that is five hours behind. -/
theorem timestamps_survive_before_epoch :
    (∃ m, readTimestamp "-1".toList = .ok m ∧ m.epochMillis = -1) ∧
      ∃ wall, CivilTime.wall ⟨1969, 12, 31, 18, 59, 59, 999000⟩ = .ok wall ∧
        (Moment.reading wall (some (-18000000000))).epochMillis = -1 := by
  have hone : IntegerText "-1".toList (-1) :=
    @IntegerText.minus ['1'] (by decide) (by decide) (by decide)
  have hmicros : CivilTime.micros ⟨1969, 12, 31, 18, 59, 59, 999000⟩ -
      (some (-18000000000) : Option Int).getD 0 = -1000 := by decide
  have hkept := timestamps_survive.1 _ _ hone
  obtain ⟨m, hm⟩ := hkept.read.mpr (by decide)
  obtain ⟨wall, hwall, hmillis⟩ := timestamps_survive.2.1 ⟨1969, 12, 31, 18, 59, 59, 999000⟩
    ⟨by decide, by decide, by decide, by decide, by decide, by decide, by decide⟩
    (some (-18000000000))
  refine ⟨⟨m, hm, hkept.millis m hm⟩, wall, hwall, hmillis.trans ?_⟩
  rw [hmicros]
  norm_num

end MetricArchive
