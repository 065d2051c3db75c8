import MetricArchive.Proofs.Store.Location
import MetricArchive.Store.File

/-!
# Stores on disk

An output that is accepted should never lead to a store in memory. Main statements: what is opened
for a URL on disk lasts from one connection to the next; and every output is either refused as a
problem or leads to a URL on disk, apart from those that `Slips` lists and from none of them.
-/
namespace MetricArchive

namespace DatabaseUrl

open Text

variable {u : DatabaseUrl}

def UriInMemory (u : DatabaseUrl) : Prop :=
  u.switch "uri" = .ok true ∧ ∃ f, FileUri.read? u.uriText.toList = some f ∧ f.isMemory = true

/-- Neither the database nor the URI that it may be asks for a database in memory. -/
structure OnDisk (u : DatabaseUrl) : Prop where
  nonempty : u.database.getD "" ≠ ""
  kept : u.database.getD "" ≠ ":memory:"
  uri : ¬ u.UriInMemory

/-- The order of the query makes no difference to the URI. -/
theorem uriInMemory_sorted {w : DatabaseUrl} (hd : w.database = u.database)
    (hq : w.query = sorted u.query) (h : ProperQuery u.query) : w.UriInMemory ↔ u.UriInMemory := by
  have hp : w.query.Perm u.query := hq ▸ perm_sorted u.query
  rw [UriInMemory, UriInMemory, switch_eq_of_perm hp h "uri", uriText_eq_of_perm hd hp h]

theorem atPath_lasts {w : Workspace FileContent} {m : Machine FileContent} {path : String}
    {k : KeptStore} (h : KeptStore.atPath w path m = .ok k) : k.lasts = true := by
  unfold KeptStore.atPath at h
  repeat' split at h
  all_goals cases h
  all_goals rfl

theorem withoutPlugins_ok {w : DatabaseUrl} (h : u.withoutPlugins = .ok w) :
    w = { u with query := u.query.filter fun item => !pluginKeys.contains item.1 } := by
  unfold withoutPlugins at h
  split at h <;> cases h
  rfl

/-- Plugins are no part of the settings and of the URI. -/
theorem switch_withoutPlugins {w : DatabaseUrl} (h : u.withoutPlugins = .ok w) :
    w.switch "uri" = u.switch "uri" := by
  refine switch_congr ?_
  rw [withoutPlugins_ok h]
  exact @lookup_filter "uri" (!pluginKeys.contains ·) (by decide) u.query

theorem uriText_withoutPlugins {w : DatabaseUrl} (h : u.withoutPlugins = .ok w) :
    w.uriText = u.uriText := by
  have hoptions : w.uriOptions = u.uriOptions := by
    rw [withoutPlugins_ok h, uriOptions, uriOptions, List.filter_filter]
    congr 2
    funext item
    rw [Bool.and_assoc, Bool.and_self]
  rw [uriText, uriText, hoptions, withoutPlugins_ok h]

/-- The URI has no name of the database in memory if its database has none. -/
theorem OnDisk.uriText_ne (h : u.OnDisk) : u.uriText ≠ "" ∧ u.uriText ≠ ":memory:" := by
  unfold uriText
  split
  · rw [String.append_empty]
    exact ⟨h.nonempty, h.kept⟩
  · generalize "&".intercalate (u.uriOptions.map optionText) = options
    have hmem : '?' ∈ (u.database.getD "" ++ ("?" ++ options)).toList := by simp
    constructor
    · intro heq
      rw [heq] at hmem
      exact absurd hmem (by decide)
    · intro heq
      rw [heq] at hmem
      exact absurd hmem (by decide)

theorem exists_of_bind_ok {ε α β : Type} {x : Except ε α} {f : α → Except ε β} {b : β}
    (h : x >>= f = .ok b) : ∃ a, x = .ok a ∧ f a = .ok b := by
  cases x with
  | error e => cases h
  | ok a => exact ⟨a, rfl, h⟩

theorem switch_of_readSettings {uri : Bool} (h : u.readSettings = .ok uri) :
    u.switch "uri" = .ok uri := by
  obtain ⟨found, hswitch, h⟩ := exists_of_bind_ok h
  obtain ⟨-, -, h⟩ := exists_of_bind_ok h
  obtain ⟨-, -, h⟩ := exists_of_bind_ok h
  obtain ⟨-, -, h⟩ := exists_of_bind_ok h
  obtain ⟨-, -, h⟩ := exists_of_bind_ok h
  cases h
  exact hswitch

theorem target_ok {t : OpenedStore} (h : u.target = .ok t) : ∃ uri, u.switch "uri" = .ok uri ∧
    t = if uri then .uri u.uriText
      else if u.database.getD "" == "" || u.database.getD "" == ":memory:" then .memory
      else .file (u.database.getD "") := by
  unfold target at h
  dsimp only at h
  split at h
  · cases h
  · cases hsettings : u.readSettings with
    | error f =>
      rw [hsettings] at h
      cases h
    | ok uri =>
      rw [hsettings] at h
      exact ⟨uri, switch_of_readSettings hsettings, (Except.ok.inj h).symm⟩

theorem connect_ok {c : Connection} (h : u.connect = .ok c) :
    u.withoutPlugins = .ok c.url ∧ c.url.target = .ok c.target := by
  obtain ⟨w, hplain, h⟩ := exists_of_bind_ok h
  obtain ⟨t, htarget, h⟩ := exists_of_bind_ok h
  cases h
  exact ⟨hplain, htarget⟩

/-- What is opened for a URL on disk is found again by the next connection. -/
theorem OnDisk.lasts (h : u.OnDisk) {c : Connection} (hc : u.connect = .ok c)
    {w : Workspace FileContent} {m : Machine FileContent} {k : KeptStore}
    (hk : KeptStore.open w c.target m = .ok k) : k.lasts = true := by
  obtain ⟨hplain, htarget⟩ := connect_ok hc
  obtain ⟨uri, hswitch, htarget⟩ := target_ok htarget
  rw [switch_withoutPlugins hplain] at hswitch
  rw [htarget, uriText_withoutPlugins hplain, withoutPlugins_ok hplain] at hk
  cases uri with
  | true =>
    simp only [if_true, KeptStore.open] at hk
    split at hk
    · rw [if_neg (by simp [h.uriText_ne])] at hk
      exact atPath_lasts hk
    · rename_i f hread
      have hdisk : f.isMemory = false := by
        rw [← Bool.not_eq_true]
        exact fun hmemory => h.uri ⟨hswitch, f, hread, hmemory⟩
      split at hk
      · cases hk
      · rw [hdisk, if_neg (by decide)] at hk
        exact atPath_lasts hk
  | false =>
    have hcond : (u.database.getD "" == "" || u.database.getD "" == ":memory:") = false := by
      simp [h.nonempty, h.kept]
    simp only [hcond, Bool.false_eq_true, if_false, KeptStore.open] at hk
    exact atPath_lasts hk

end DatabaseUrl

namespace Location

open Text

variable {homes : Path.Homes} {output : String}

/-- An output is refused as a problem, or the URL that is made for it is read as one on disk. -/
def Settled (r : Except LocationFault String) : Prop :=
  (∃ q, r = .error (.problem q) ∧ q.kind = .configuration) ∨
    ∃ s u, r = .ok s ∧ DatabaseUrl.read s = .ok u ∧ u.OnDisk

/-- A path that is a database in memory once it is read as a part of a URL. -/
inductive Misread (text : String) : Prop where
  /-- Everything is taken for a query. -/
  | bare (h : text.toList.head? = some '?')
  | named (h : Url.decode (cutAt '?' text.toList).1 = ":memory:".toList)
  | uri (h : (readPath text).UriInMemory)

/-- The outputs that are neither refused as a problem nor kept on disk. -/
inductive Slips (homes : Path.Homes) (output : String) : Prop where
  /-- Nobody knows the home that the path begins with. -/
  | home (hplain : isUrl output = false) (hhome : (Path.ofText output).expandHome? homes = none)
  | path {p : Path} (hplain : isUrl output = false) (hempty : output ≠ "")
    (hmemory : output ≠ ":memory:") (hhome : (Path.ofText output).expandHome? homes = some p)
    (h : Misread p.text)
  | port {f : IntegerFault} (hurl : isUrl output = true)
    (hread : DatabaseUrl.read output = .error (.port f))
  | uri {u : DatabaseUrl} (hurl : isUrl output = true) (hread : DatabaseUrl.read output = .ok u)
    (hbackend : u.backend = "sqlite") (hmemory : namesMemory u = false) (h : u.UriInMemory)
  /-- The URL loses its database when it is written and read again. -/
  | host {u : DatabaseUrl} {host : String} (hurl : isUrl output = true)
    (hread : DatabaseUrl.read output = .ok u) (hbackend : u.backend = "sqlite")
    (hmemory : namesMemory u = false) (hhost : u.host = some host)
    (h : DatabaseUrl.FallsApart host)

/-- A URL that is written is on disk exactly if its host does not fall apart and its URI is none in
memory. -/
theorem exists_onDisk_iff {u : DatabaseUrl} (hu : u.Proper) (hmemory : namesMemory u = false) :
    ∃ w, DatabaseUrl.read ({ u with driver := driver } : DatabaseUrl).text = .ok w ∧
      (w.OnDisk ↔ (∀ h ∈ u.host, ¬ DatabaseUrl.FallsApart h) ∧ ¬ u.UriInMemory) := by
  simp only [namesMemory, Bool.or_eq_false_iff, beq_eq_false_iff_ne] at hmemory
  obtain ⟨⟨hempty, hkept⟩, -⟩ := hmemory
  obtain ⟨d, hd⟩ : ∃ d, u.database = some d := by
    cases hd : u.database with
    | none => exact absurd (by rw [hd]; rfl) hempty
    | some d => exact ⟨d, rfl⟩
  by_cases hh : ∀ h ∈ u.host, ¬ DatabaseUrl.FallsApart h
  · obtain ⟨host, hread⟩ := DatabaseUrl.exists_read_text hu hd hh
    obtain ⟨w, hread, hdatabase, hquery⟩ : ∃ w,
        DatabaseUrl.read ({ u with driver := driver } : DatabaseUrl).text = .ok w ∧
          w.database = u.database ∧ w.query = DatabaseUrl.sorted u.query := ⟨_, hread, rfl, rfl⟩
    have huri := DatabaseUrl.uriInMemory_sorted hdatabase hquery hu.query
    refine ⟨w, hread, fun hdisk => ⟨hh, huri.not.mp hdisk.uri⟩, fun hsound => ?_⟩
    refine ⟨hdatabase ▸ hempty, ?_, huri.not.mpr hsound.2⟩
    rw [hdatabase, hd]
    exact fun heq => hkept (hd.trans (congrArg some heq))
  · simp only [not_forall, not_not] at hh
    obtain ⟨host, hhost, happart⟩ := hh
    obtain ⟨w, hread, hnone⟩ := DatabaseUrl.exists_read_text_apart hu hd hhost happart
    refine ⟨w, hread, fun hdisk => ?_, fun hdisk => absurd happart (hdisk.1 host hhost)⟩
    exact absurd (by rw [hnone]; rfl) hdisk.nonempty

section Iff

variable {f : LocationFault} {s : String} {u : DatabaseUrl} {q : Problem}

theorem settled_ok (h : DatabaseUrl.read s = .ok u) : Settled (.ok s) ↔ u.OnDisk := by
  constructor
  · rintro (⟨q, hq, -⟩ | ⟨s, u, hs, hu, hdisk⟩)
    · cases hq
    · cases hs
      rw [h] at hu
      cases hu
      exact hdisk
  · exact fun hdisk => .inr ⟨s, u, rfl, h, hdisk⟩

theorem settled_problem (h : q.kind = .configuration) : Settled (.error (.problem q)) :=
  .inl ⟨q, rfl, h⟩

theorem not_settled_error (h : ∀ q, f ≠ .problem q) : ¬ Settled (.error f) := by
  rintro (⟨q, hq, -⟩ | ⟨s, u, hs, -⟩)
  · exact h q (Except.error.inj hq)
  · cases hs

theorem slips_plain_iff (h : isUrl output = false) : Slips homes output ↔
    (Path.ofText output).expandHome? homes = none ∨ output ≠ "" ∧ output ≠ ":memory:" ∧
      ∃ p, (Path.ofText output).expandHome? homes = some p ∧ Misread p.text := by
  constructor
  · intro hslip
    cases hslip with
    | home _ hhome => exact .inl hhome
    | path _ hempty hmemory hhome hread => exact .inr ⟨hempty, hmemory, _, hhome, hread⟩
    | port hurl => simp [h] at hurl
    | uri hurl => simp [h] at hurl
    | host hurl => simp [h] at hurl
  · rintro (hhome | ⟨hempty, hmemory, p, hhome, hread⟩)
    · exact .home h hhome
    · exact .path h hempty hmemory hhome hread

theorem slips_url_iff (h : isUrl output = true) : Slips homes output ↔
    (∃ f, DatabaseUrl.read output = .error (.port f)) ∨
      ∃ u, DatabaseUrl.read output = .ok u ∧ u.backend = "sqlite" ∧ namesMemory u = false ∧
        ¬ ((∀ host ∈ u.host, ¬ DatabaseUrl.FallsApart host) ∧ ¬ u.UriInMemory) := by
  constructor
  · intro hslip
    cases hslip with
    | home hplain => simp [h] at hplain
    | path hplain => simp [h] at hplain
    | port _ hread => exact .inl ⟨_, hread⟩
    | uri _ hread hbackend hmemory huri =>
      exact .inr ⟨_, hread, hbackend, hmemory, fun hsound => hsound.2 huri⟩
    | host _ hread hbackend hmemory hhost happart =>
      exact .inr ⟨_, hread, hbackend, hmemory, fun hsound => hsound.1 _ hhost happart⟩
  · rintro (⟨f, hread⟩ | ⟨u, hread, hbackend, hmemory, hsound⟩)
    · exact .port h hread
    · by_cases huri : u.UriInMemory
      · exact .uri h hread hbackend hmemory huri
      · simp only [huri, not_false_eq_true, and_true, not_forall, not_not] at hsound
        obtain ⟨host, hhost, happart⟩ := hsound
        exact .host h hread hbackend hmemory hhost happart

/-- What is left in front of a question mark is empty only if there was nothing. -/
theorem database_readPath_eq_empty {text : String} (hne : text ≠ "") :
    (readPath text).database = some "" ↔ text.toList.head? = some '?' := by
  obtain ⟨c, cs, hcs⟩ : ∃ c cs, text.toList = c :: cs :=
    List.exists_cons_of_ne_nil fun hnil => hne (String.toList_eq_nil_iff.mp hnil)
  have hfront : (cutAt '?' text.toList).1 = [] ↔ c = '?' := by
    simp [hcs, cutAt, List.takeWhile_cons]
  rw [hcs, List.head?_cons, Option.some.injEq, ← hfront, readPath, Option.some.injEq]
  constructor
  · intro hdecoded
    by_contra hcut
    exact DatabaseUrl.ofList_ne_empty (Url.decode_ne_nil hcut) hdecoded
  · intro hcut
    rw [hcut, Url.decode_of_not_mem List.not_mem_nil, String.ofList_nil]

theorem onDisk_readPath_iff {text : String} (hne : text ≠ "") :
    (readPath text).OnDisk ↔ ¬ Misread text := by
  have hempty := database_readPath_eq_empty hne
  have hnamed : (readPath text).database = some ":memory:" ↔
      Url.decode (cutAt '?' text.toList).1 = ":memory:".toList := by
    rw [readPath, Option.some.injEq, ← String.toList_inj, String.toList_ofList]
  constructor
  · intro hdisk hmisread
    cases hmisread with
    | bare h => exact hdisk.nonempty (by rw [hempty.mpr h]; rfl)
    | named h => exact hdisk.kept (by rw [hnamed.mpr h]; rfl)
    | uri h => exact hdisk.uri h
  · intro h
    exact ⟨fun he => h (.bare (hempty.mp (congrArg some he))),
      fun he => h (.named (hnamed.mp (congrArg some he))), fun huri => h (.uri huri)⟩

theorem ofPath_settled_iff (h : isUrl output = false) :
    Settled (ofPath homes output) ↔ ¬ Slips homes output := by
  rw [slips_plain_iff h]
  by_cases hnamed : output = "" ∨ output = ":memory:"
  · have hrefused : ofPath homes output = .error (.problem (inMemory output)) := by
      rw [ofPath, if_pos (by simpa using hnamed)]
    have hhome : (Path.ofText output).expandHome? homes ≠ none := by
      have hread : Path.ofText ":memory:" = ⟨"", [":memory:"]⟩ := by decide
      rcases hnamed with rfl | rfl
      · exact Option.some_ne_none _
      · simp [hread, Path.expandHome?]
    rw [hrefused]
    refine iff_of_true (settled_problem rfl) ?_
    rintro (hnone | ⟨hempty, hmemory, -⟩)
    · exact hhome hnone
    · exact hnamed.elim hempty hmemory
  · obtain ⟨hempty, hmemory⟩ := not_or.mp hnamed
    rw [ofPath_eq hempty hmemory]
    cases hhome : (Path.ofText output).expandHome? homes with
    | none => simpa using not_settled_error (by simp)
    | some p =>
      have hne := Path.text_ne_empty ((Path.normal_ofText output).expandHome hhome)
      have hdisk := (settled_ok (read_pathUrl p.text)).trans (onDisk_readPath_iff hne)
      simpa [hempty, hmemory] using hdisk

theorem ofUrl_settled_iff (h : isUrl output = true) :
    Settled (ofUrl output) ↔ ¬ Slips homes output := by
  rw [slips_url_iff h]
  unfold ofUrl
  cases hread : DatabaseUrl.read output with
  | error f =>
    cases f with
    | unreadable => simpa using settled_problem rfl
    | port f => simpa using not_settled_error (by simp)
  | ok u =>
    by_cases hbackend : u.backend = "sqlite"
    · cases hmemory : namesMemory u with
      | true => simpa [hbackend, hmemory] using settled_problem rfl
      | false =>
        obtain ⟨w, hwritten, hdisk⟩ := exists_onDisk_iff (DatabaseUrl.proper_of_read hread) hmemory
        have hsettled := (settled_ok hwritten).trans hdisk
        simpa [hbackend, hmemory] using hsettled
    · simpa [hbackend] using settled_problem rfl

end Iff

/-- Nothing but a slip is accepted without a database on disk, or refused in another way than as a
problem. -/
theorem url_settled_iff (homes : Path.Homes) (output : String) :
    Settled (url homes output) ↔ ¬ Slips homes output := by
  cases h : isUrl output with
  | true =>
    rw [url, if_pos h]
    exact ofUrl_settled_iff h
  | false =>
    rw [url, if_neg (by simp [h])]
    exact ofPath_settled_iff h

/-- A URI that asks for a database in memory by its path is accepted and written again. -/
theorem url_file_uri :
    url ⟨"/root", []⟩ "sqlite:///file::memory:?uri=true" =
      .ok "sqlite+aiosqlite:///file%3A%3Amemory%3A?uri=true" ∧
    ∃ u, DatabaseUrl.read "sqlite+aiosqlite:///file%3A%3Amemory%3A?uri=true" = .ok u ∧
      u.switch "uri" = .ok true ∧
      FileUri.read? u.uriText.toList = some ⟨"", ":memory:", []⟩ ∧ ¬ u.OnDisk := by
  have hread : DatabaseUrl.read "sqlite+aiosqlite:///file%3A%3Amemory%3A?uri=true" =
      .ok ⟨driver, none, none, none, none, some "file::memory:", [("uri", ["true"])]⟩ := by
    decide +kernel
  have hswitch : DatabaseUrl.switch ⟨driver, none, none, none, none, some "file::memory:",
      [("uri", ["true"])]⟩ "uri" = .ok true := by
    decide +kernel
  have huri : FileUri.read? (DatabaseUrl.uriText ⟨driver, none, none, none, none,
      some "file::memory:", [("uri", ["true"])]⟩).toList = some ⟨"", ":memory:", []⟩ := by
    decide +kernel
  exact ⟨by decide +kernel, _, hread, hswitch, huri,
    fun hdisk => hdisk.uri ⟨hswitch, _, huri, by decide⟩⟩

end Location

end MetricArchive
