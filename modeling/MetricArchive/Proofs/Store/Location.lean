import MetricArchive.Proofs.Path.Normal
import MetricArchive.Proofs.Store.WrittenUrl

/-!
# Which store an output names

The path of a file becomes part of a URL as it is and is read again by the rules of URLs. Main
statement: the folder that is made is always the one of that path, but the database that is read is
the path itself, with nothing after it, exactly if no question mark and no triple of percent
encoding stands in it; and an output means the same as text and as a path exactly if it is no URL, not empty
and not another way to write the name of the database in memory.
-/
namespace MetricArchive.Location

open Text

variable {homes : Path.Homes} {output s : String}

def readPath (text : String) : DatabaseUrl where
  driver := driver
  user := none
  password := none
  host := none
  port := none
  database := some (String.ofList (Url.decode (cutAt '?' text.toList).1))
  query := (cutAt '?' text.toList).2.elim []
    fun q => DatabaseUrl.readQuery (q.takeWhile (· != '\n'))

def pathUrl (text : String) : String := driver ++ ":///" ++ text

theorem takePart_path (cs : List Char) : ∃ rest,
    DatabaseUrl.takePart '/' (· == '?') ('/' :: cs) = (some (cutAt '?' cs).1, rest) ∧
      DatabaseUrl.takePart '?' (· == '\n') rest =
        ((cutAt '?' cs).2.map (·.takeWhile (· != '\n')),
          (cutAt '?' cs).2.elim [] (·.dropWhile (· != '\n'))) := by
  obtain hno | ⟨before, after, rfl, hno⟩ := exists_cutAt '?' cs
  · have hall : All (fun c => !(c == '?')) cs := all_ne_iff.mpr hno
    have htake := @DatabaseUrl.takePart_run [] '/' (· == '?') cs hall stops_nil
    rw [List.append_nil] at htake
    rw [cutAt_of_not_mem hno]
    exact ⟨[], htake, rfl⟩
  · have hall : All (fun c => !(c == '?')) before := all_ne_iff.mpr hno
    have hline := @DatabaseUrl.takePart_run (after.dropWhile (· != '\n')) '?' (· == '\n')
      (after.takeWhile (· != '\n')) (all_takeWhile _ _) (stops_dropWhile _ _)
    rw [List.takeWhile_append_dropWhile] at hline
    rw [cutAt_run hno]
    exact ⟨'?' :: after, DatabaseUrl.takePart_run hall (by simp), hline⟩

theorem toList_pathUrl (text : String) :
    (pathUrl text).toList = driver.toList ++ ':' :: '/' :: '/' :: '/' :: text.toList := by
  simp [pathUrl]

theorem read_pathUrl (text : String) : DatabaseUrl.read (pathUrl text) = .ok (readPath text) := by
  have htext := toList_pathUrl text
  have hcreds : DatabaseUrl.takeCredentials ('/' :: text.toList) = (none, '/' :: text.toList) :=
    DatabaseUrl.takeCredentials_run all_nil (by simp [DatabaseUrl.isUserChar])
      (by simp [DatabaseUrl.NoSecret])
  have hhost : DatabaseUrl.takeHost ('/' :: text.toList) = (none, '/' :: text.toList) :=
    DatabaseUrl.takeHost_portText none text.toList
  have hport : DatabaseUrl.takePart ':' (fun c => c == '/' || c == '?') ('/' :: text.toList) =
      (none, '/' :: text.toList) := DatabaseUrl.takePart_none (by simp)
  obtain ⟨rest, hdatabase, hquery⟩ := takePart_path text.toList
  rw [DatabaseUrl.read_driver htext,
    DatabaseUrl.readAfterDriver_eq hcreds hhost hport hdatabase hquery]
  rw [readPath, Option.elim_map]
  rfl

/-- The database is the path exactly if nothing in the path means anything in a URL. -/
theorem readPath_database_iff (text : String) :
    (readPath text).database = some text ∧ (readPath text).query = [] ↔
      '?' ∉ text.toList ∧ ¬ Url.HasTriple text.toList := by
  have hdatabase : (readPath text).database = some text ↔
      Url.decode (cutAt '?' text.toList).1 = text.toList := by
    rw [readPath, Option.some_inj, ← String.toList_inj, String.toList_ofList]
  obtain hno | ⟨before, after, heq, hno⟩ := exists_cutAt '?' text.toList
  · rw [hdatabase, cutAt_of_not_mem hno, Url.decode_eq_self_iff, readPath, cutAt_of_not_mem hno]
    simp [hno]
  · have hmem : '?' ∈ text.toList := by simp [heq]
    rw [hdatabase]
    refine ⟨fun ⟨hdecode, _⟩ => ?_, fun ⟨hnone, _⟩ => absurd hmem hnone⟩
    rw [heq, cutAt_run hno] at hdecode
    have hlen := Url.decode_length before
    rw [hdecode, List.length_append, List.length_cons] at hlen
    omega

/-- The driver takes such a URL and opens the file of the path, or the database in memory. -/
theorem connect_readPath {text : String} (hne : text ≠ "") (h : '?' ∉ text.toList)
    (ht : ¬ Url.HasTriple text.toList) : (readPath text).connect =
      .ok ⟨readPath text, if text = ":memory:" then .memory else .file text⟩ := by
  obtain ⟨hdatabase, hquery⟩ := (readPath_database_iff text).mpr ⟨h, ht⟩
  have hplugins : (readPath text).withoutPlugins = .ok (readPath text) := by
    have hsame : { readPath text with query := [] } = readPath text := by rw [← hquery]
    unfold DatabaseUrl.withoutPlugins
    simp [hquery, hsame]
  have hsettings : (readPath text).readSettings = .ok false := by
    simp [DatabaseUrl.readSettings, DatabaseUrl.switch, DatabaseUrl.checkNumber,
      DatabaseUrl.checkWhole, hquery]
    rfl
  have htarget : (readPath text).target =
      .ok (if text = ":memory:" then .memory else .file text) := by
    have hforeign : ((((readPath text).user.getD "" != "" ||
        (readPath text).password.getD "" != "") || (readPath text).host.getD "" != "") ||
        (readPath text).port.getD 0 != 0) = false := rfl
    unfold DatabaseUrl.target
    simp only [hforeign, hsettings, hdatabase]
    simp [Except.map, hne]
  unfold DatabaseUrl.connect
  rw [hplugins]
  simp only [bind, Except.bind]
  rw [htarget]
  rfl

theorem folder?_pathUrl {p : Path} (h : p.Normal) : folder? (pathUrl p.text) = some p.parent := by
  have hcut : cutAtPhrase? ['/', '/', '/'] (pathUrl p.text).toList =
      some ("sqlite+aiosqlite:".toList, p.text.toList) := by
    simp [pathUrl, driver, cutAtPhrase?]
  have hne : p.text.toList ≠ [] := fun hnil =>
    Path.text_ne_empty h (String.toList_inj.mp (hnil.trans rfl))
  obtain ⟨c, cs, hc⟩ := List.exists_cons_of_ne_nil hne
  rw [folder?, hcut, hc]
  dsimp only
  rw [← hc, String.ofList_toList, Path.ofText_text h]

theorem isUrl_iff : isUrl output = true ↔ [':', '/', '/'] <:+: output.toList := isSome_cutAtPhrase?

theorem isUrl_text {p : Path} (h : p.Normal) : isUrl p.text = false := by
  rw [← Bool.not_eq_true, isUrl_iff]
  exact Path.not_infix_text h (by decide)

theorem ofPath_ok (h : ofPath homes output = .ok s) : output ≠ "" ∧ output ≠ ":memory:" ∧
    ∃ p, (Path.ofText output).expandHome? homes = some p ∧ s = pathUrl p.text := by
  unfold ofPath at h
  split at h
  · cases h
  · rename_i hnamed
    split at h
    · cases h
    · rename_i p hp
      cases h
      simp only [Bool.or_eq_true, beq_iff_eq, not_or] at hnamed
      exact ⟨hnamed.1, hnamed.2, p, hp, rfl⟩

theorem ofUrl_ok (h : ofUrl output = .ok s) : ∃ u, DatabaseUrl.read output = .ok u ∧
    u.backend = "sqlite" ∧ namesMemory u = false ∧
      s = ({ u with driver := driver } : DatabaseUrl).text := by
  unfold ofUrl at h
  split at h
  · cases h
  · cases h
  · rename_i u hread
    split at h
    · cases h
    rename_i hbackend
    split at h
    · cases h
    rename_i hmemory
    cases h
    exact ⟨u, hread, by simpa using hbackend, by simpa using hmemory, rfl⟩

/-- A problem is reported together with the output that it is about. -/
theorem ofPath_error {f : LocationFault} (h : ofPath homes output = .error f) :
    f = .homeUnknown ∧ (Path.ofText output).expandHome? homes = none ∨
      ∃ q, f = .problem q ∧ q.kind = .configuration ∧ q.context = [("url", .text output)] := by
  unfold ofPath at h
  split at h
  · cases h
    exact .inr ⟨_, rfl, rfl, rfl⟩
  · split at h
    · rename_i hhome
      cases h
      exact .inl ⟨rfl, hhome⟩
    · cases h

theorem ofUrl_error {f : LocationFault} (h : ofUrl output = .error f) :
    (∃ n, f = .port n ∧ DatabaseUrl.read output = .error (.port n)) ∨
      ∃ q, f = .problem q ∧ q.kind = .configuration ∧ q.context = [("url", .text output)] := by
  unfold ofUrl at h
  split at h
  · cases h
    exact .inr ⟨_, rfl, rfl, rfl⟩
  · rename_i n hread
    cases h
    exact .inl ⟨n, rfl, hread⟩
  · split at h
    · cases h
      exact .inr ⟨_, rfl, rfl, rfl⟩
    · split at h
      · cases h
        exact .inr ⟨_, rfl, rfl, rfl⟩
      · cases h

theorem exists_scheme {u : DatabaseUrl} (h : DatabaseUrl.read output = .ok u) : ∃ scheme rest,
    output.toList = scheme ++ ':' :: '/' :: '/' :: rest ∧ scheme ≠ [] ∧
      All (fun c => isWordCharacter c || c == '+') scheme := by
  obtain ⟨scheme, tail, heq, hall, hstop⟩ :=
    exists_run (fun c => isWordCharacter c || c == '+') output.toList
  unfold DatabaseUrl.read at h
  simp only [heq, takeWhile_run hall hstop, List.drop_left] at h
  split at h
  · rename_i rest
    split at h
    · cases h
    · rename_i hne
      exact ⟨scheme, rest, heq, by simpa using hne, hall⟩
  · cases h

/-- The scheme of a URL with its colon is the first name of the path that the URL is taken for. -/
theorem exists_names_of_read {u : DatabaseUrl} (h : DatabaseUrl.read output = .ok u) :
    ∃ scheme names, (Path.ofText output).names = String.ofList (scheme ++ [':']) :: names ∧
      scheme ≠ [] ∧ All (fun c => isWordCharacter c || c == '+') scheme := by
  obtain ⟨scheme, rest, heq, hne, hall⟩ := exists_scheme h
  have hslash : '/' ∉ scheme ++ [':'] := by
    simp only [List.mem_append, List.mem_singleton, not_or]
    exact ⟨fun hmem => absurd (hall _ hmem) (by decide), by decide⟩
  have hdot : scheme ++ [':'] ≠ ['.'] := by
    intro hdot
    have hlast := congrArg List.getLast? hdot
    simp at hlast
  have hsplit : split '/' output.toList = (scheme ++ [':']) :: [] :: split '/' rest := by
    have htext : output.toList = (scheme ++ [':']) ++ '/' :: '/' :: rest := by simp [heq]
    rw [htext, split_run hslash]
    simp [split]
  have hread : (Path.ofText output).names = Path.readNames output.toList := rfl
  rw [hread, Path.readNames, hsplit, List.filter_cons_of_pos (by simp [hdot])]
  exact ⟨scheme, _, rfl, hne, hall⟩

/-- No home stands for the scheme of a URL, so its colon stays where it is. -/
theorem colon_mem_of_read {u : DatabaseUrl} (h : DatabaseUrl.read output = .ok u) {p : Path}
    (hp : (Path.ofText output).expandHome? homes = some p) : ':' ∈ p.text.toList := by
  obtain ⟨scheme, names, hnames, hne, hall⟩ := exists_names_of_read h
  have htilde : (String.ofList (scheme ++ [':'])).startsWith "~" = false := by
    obtain ⟨c, scheme, rfl⟩ := List.exists_cons_of_ne_nil hne
    rw [← Bool.not_eq_true, String.startsWith_string_iff]
    rintro ⟨more, hmore⟩
    have hc : '~' = c := by simpa using congrArg List.head? hmore
    subst hc
    exact absurd (all_cons.mp hall).1 (by decide)
  have hsame : p = Path.ofText output := by
    simp only [Path.expandHome?, hnames, htilde, Bool.and_false] at hp
    cases hp
    rfl
  rw [hsame, Path.toList_text (.inr (by simp [hnames])), hnames, List.mem_append]
  right
  cases names with
  | nil => simp [Path.body]
  | cons name names => simp [Path.body, List.intercalate_cons_cons]

theorem ofUrl_ne_pathUrl {text : String} (h : ':' ∈ text.toList) :
    ofUrl output ≠ .ok (pathUrl text) := by
  intro hok
  obtain ⟨u, hread, -, hmemory, heq⟩ := ofUrl_ok hok
  have hu := DatabaseUrl.proper_of_read hread
  obtain ⟨d, hd⟩ : ∃ d, u.database = some d := by
    cases hd : u.database with
    | none => simp [namesMemory, hd] at hmemory
    | some d => exact ⟨d, rfl⟩
  have hchars := congrArg String.toList heq
  rw [DatabaseUrl.toList_text hd, toList_pathUrl] at hchars
  have hrest := List.append_cancel_left hchars
  simp only [List.cons.injEq, true_and, DatabaseUrl.hostOnText] at hrest
  have hno := DatabaseUrl.slash_not_mem_text hu
  rw [← List.append_assoc, ← List.append_assoc, List.append_assoc u.credentialsText.toList] at hrest
  generalize u.credentialsText.toList ++
    ((u.host.elim [] fun h => (DatabaseUrl.hostText h).toList) ++
      DatabaseUrl.portText u.port) = lead at hrest hno
  cases lead with
  | nil =>
    rw [List.nil_append] at hrest
    rw [(List.cons.inj hrest).2, List.mem_append] at h
    rcases h with h | h
    · rw [DatabaseUrl.encodeDatabase, String.toList_ofList] at h
      exact Url.not_mem_encode (by decide) (by decide) (by decide) _ h
    · exact DatabaseUrl.not_mem_queryText (by decide) (by decide) (by decide) (by decide)
        (by decide) (by decide) (by decide) _ h
  | cons c lead =>
    rw [List.cons_append] at hrest
    exact hno ((List.cons.inj hrest).1 ▸ List.mem_cons_self)

/-- A URL never means the same when it is given as a path. -/
theorem url_asPath_ne (h : isUrl output = true) :
    url homes (Path.ofText output).text ≠ url homes output := by
  have hnormal := Path.normal_ofText output
  have hplain := isUrl_text hnormal
  have hne : (Path.ofText output).text ≠ output := by
    intro heq
    rw [heq, h] at hplain
    cases hplain
  intro heq
  rw [url, url, if_pos h, if_neg (by simp [hplain])] at heq
  cases hpath : ofPath homes (Path.ofText output).text with
  | error f =>
    rw [hpath] at heq
    obtain ⟨rfl, -⟩ | ⟨q, rfl, -, hcontext⟩ := ofPath_error hpath
    · obtain ⟨n, hfault, -⟩ | ⟨q, hfault, -⟩ := ofUrl_error heq.symm
      · cases hfault
      · cases hfault
    · obtain ⟨n, hfault, -⟩ | ⟨q, hfault, -, hcontext'⟩ := ofUrl_error heq.symm
      · cases hfault
      · cases hfault
        rw [hcontext'] at hcontext
        simp only [List.cons.injEq, Prod.mk.injEq, Field.text.injEq, true_and, and_true] at hcontext
        exact hne hcontext.symm
  | ok s =>
    rw [hpath] at heq
    obtain ⟨-, -, p, hp, rfl⟩ := ofPath_ok hpath
    rw [Path.ofText_text hnormal] at hp
    obtain ⟨u, hread, -⟩ := ofUrl_ok heq.symm
    exact ofUrl_ne_pathUrl (colon_mem_of_read hread hp) heq.symm

theorem ofPath_eq (he : output ≠ "") (hm : output ≠ ":memory:") : ofPath homes output =
    match (Path.ofText output).expandHome? homes with
    | none => .error .homeUnknown
    | some p => .ok (pathUrl p.text) := by
  have hcond : (output == "" || output == ":memory:") = false := by simp [he, hm]
  unfold ofPath
  rw [hcond]
  rfl

/-- A path that is not empty means the same in normal form, unless that is the name of the database
in memory. -/
theorem ofPath_normal_iff : ofPath homes (Path.ofText output).text = ofPath homes output ↔
    output ≠ "" ∧ ((Path.ofText output).text = ":memory:" → output = ":memory:") := by
  have hnormal := Path.normal_ofText output
  have hback := Path.ofText_text hnormal
  have hne := Path.text_ne_empty hnormal
  by_cases hempty : output = ""
  · subst hempty
    have hok : ofPath homes (Path.ofText "").text = .ok (pathUrl ".") := rfl
    have herror : ofPath homes "" = .error (.problem (inMemory "")) := rfl
    simp [hok, herror]
  by_cases hsame : output = ":memory:"
  · subst hsame
    have htext : (Path.ofText ":memory:").text = ":memory:" := by decide
    simp [htext]
  by_cases hmemory : (Path.ofText output).text = ":memory:"
  · have hrefused : ofPath homes ":memory:" = .error (.problem (inMemory ":memory:")) := rfl
    have hread : Path.ofText ":memory:" = ⟨"", [":memory:"]⟩ := by decide
    have hnamed : (Path.ofText output).expandHome? homes = some ⟨"", [":memory:"]⟩ := by
      rw [← hback, hmemory, hread]
      simp [Path.expandHome?]
    rw [hmemory, hrefused, ofPath_eq hempty hsame, hnamed]
    simp [hsame]
  · rw [ofPath_eq hne hmemory, ofPath_eq hempty hsame, hback]
    simp [hempty, hmemory]

/-- Where the URL of an accepted path leads, and which outputs mean the same as paths. -/
theorem url_names_output (homes : Path.Homes) (output : String) :
    (∀ s, isUrl output = false → url homes output = .ok s →
      ∃ p u, (Path.ofText output).expandHome? homes = some p ∧ DatabaseUrl.read s = .ok u ∧
        folder? s = some p.parent ∧
        (u.database = some p.text ∧ u.query = [] ↔
          '?' ∉ p.text.toList ∧ ¬ Url.HasTriple p.text.toList) ∧
        (u.database = some p.text → u.query = [] →
          u.connect = .ok ⟨u, if p.text = ":memory:" then .memory else .file p.text⟩)) ∧
    (url homes (Path.ofText output).text = url homes output ↔
      isUrl output = false ∧ output ≠ "" ∧
        ((Path.ofText output).text = ":memory:" → output = ":memory:")) := by
  have hnormal := Path.normal_ofText output
  constructor
  · intro s hplain hok
    rw [url, if_neg (by simp [hplain])] at hok
    obtain ⟨-, -, p, hp, rfl⟩ := ofPath_ok hok
    have hproper := hnormal.expandHome hp
    refine ⟨p, readPath p.text, hp, read_pathUrl p.text, folder?_pathUrl hproper,
      readPath_database_iff p.text, fun hdatabase hquery => ?_⟩
    obtain ⟨hmark, htriple⟩ := (readPath_database_iff p.text).mp ⟨hdatabase, hquery⟩
    exact connect_readPath (Path.text_ne_empty hproper) hmark htriple
  · cases hurl : isUrl output with
    | true => simpa using url_asPath_ne hurl
    | false =>
      have hplain := isUrl_text hnormal
      rw [url, url, if_neg (by simp [hplain]), if_neg (by simp [hurl]), ofPath_normal_iff]
      simp

/-- A path with a question mark is accepted, and another database than the path is read. -/
theorem url_question_mark : isUrl "a?b" = false ∧
    url ⟨"/root", []⟩ "a?b" = .ok "sqlite+aiosqlite:///a?b" ∧
    (Path.ofText "a?b").expandHome? ⟨"/root", []⟩ = some ⟨"", ["a?b"]⟩ ∧
    (DatabaseUrl.read "sqlite+aiosqlite:///a?b").map (·.database) = .ok (some "a") := by
  have hplain : isUrl "a?b" = false := by decide
  have hread : Path.ofText "a?b" = ⟨"", ["a?b"]⟩ := by decide
  have hnamed : (Path.ofText "a?b").expandHome? ⟨"/root", []⟩ = some ⟨"", ["a?b"]⟩ := by
    rw [hread]
    simp [Path.expandHome?]
  have hurl : url ⟨"/root", []⟩ "a?b" = .ok (pathUrl "a?b") := by
    rw [url, hplain, if_neg (by decide), ofPath_eq (by decide) (by decide), hnamed]
    rfl
  have hdatabase : (readPath "a?b").database = some "a" := by
    have hcut : cutAt '?' "a?b".toList = (['a'], some ['b']) := by decide
    rw [readPath, hcut, Url.decode_of_not_mem (by decide)]
  refine ⟨hplain, hurl, hnamed, ?_⟩
  have hwritten : DatabaseUrl.read "sqlite+aiosqlite:///a?b" = .ok (readPath "a?b") :=
    read_pathUrl "a?b"
  rw [hwritten, Except.map, hdatabase]

end MetricArchive.Location
