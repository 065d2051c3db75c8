import MetricArchive.Proofs.Store.UrlQuery
import MetricArchive.Proofs.Text.Integer

/-!
# Database URLs read and written

Main statement: a URL that has been read and has a database is written in a form that is read again,
and its database and its query come out as they were, the keys of the query in order. Only a host
that begins with a text in brackets and goes on after them is taken apart at the second reading, and
then nothing that stands after it is found.
-/
namespace MetricArchive.DatabaseUrl

open Text

variable {u : DatabaseUrl} {cs run rest after : List Char}

/-- What holds of every URL that has been read. -/
structure Proper (u : DatabaseUrl) : Prop where
  host : ∀ h ∈ u.host, h ≠ "" ∧ '/' ∉ h.toList ∧ '?' ∉ h.toList
  hostless : u.password = none → ∀ h ∈ u.host, '@' ∉ h.toList
  userless : u.user = none → u.password = none
  port : ∀ p ∈ u.port, p.natAbs < 10 ^ digitLimit
  query : ProperQuery u.query

theorem mem_takeWhile_imp {p q : Char → Bool} (h : ∀ c, p c = true → q c = true) {c : Char}
    (hc : c ∈ cs.takeWhile p) : c ∈ cs.takeWhile q := by
  induction cs with
  | nil => exact hc
  | cons d cs ih =>
    rw [List.takeWhile_cons] at hc ⊢
    split at hc
    · rename_i hd
      rw [if_pos (h d hd)]
      rcases List.mem_cons.mp hc with rfl | hc
      · exact List.mem_cons_self
      · exact List.mem_cons_of_mem _ (ih hc)
    · cases hc

section Credentials

variable {user password tail : List Char}

def isUserChar (c : Char) : Bool := c != ':' && c != '/'

def NoSecret (tail : List Char) : Prop := ∀ secret, tail = ':' :: secret → '@' ∉ secret

theorem takeCredentials_password (hu : All isUserChar user) (hp : '@' ∉ password)
    (rest : List Char) : takeCredentials (user ++ ':' :: (password ++ '@' :: rest)) =
      (some (user, some password), rest) := by
  have htake : (user ++ ':' :: (password ++ '@' :: rest)).takeWhile
      (fun c => c != ':' && c != '/') = user := takeWhile_run hu (by simp)
  unfold takeCredentials
  simp [htake, cutAt_run hp]

/-- Without a password an at sign in the run is what counts. -/
theorem takeCredentials_run (hr : All isUserChar run) (ht : Stops isUserChar tail)
    (hs : NoSecret tail) : takeCredentials (run ++ tail) =
      match cutAtLast? '@' run with
      | some (user, after) => (some (user, none), after ++ tail)
      | none => (none, run ++ tail) := by
  have htake : (run ++ tail).takeWhile (fun c => c != ':' && c != '/') = run :=
    takeWhile_run hr ht
  unfold takeCredentials
  simp only [htake, List.drop_left]
  split
  · rename_i secret
    have hnone := cutAt_of_not_mem (hs secret rfl)
    cases cutAtLast? '@' run <;> simp only [hnone]
  · rfl

theorem noSecret_of_not_mem (h : '@' ∉ tail) : NoSecret tail := by
  rintro secret rfl hmem
  exact h (List.mem_cons_of_mem _ hmem)

theorem takeCredentials_user (hu : All isUserChar user) (h : '@' ∉ rest) :
    takeCredentials (user ++ '@' :: rest) = (some (user, none), rest) := by
  obtain ⟨after, tail, rfl, hafter, htail⟩ := exists_run isUserChar rest
  obtain ⟨ha, ht⟩ : '@' ∉ after ∧ '@' ∉ tail := by simpa using h
  have hrun : All isUserChar (user ++ '@' :: after) :=
    all_append.mpr ⟨hu, all_cons.mpr ⟨by decide, hafter⟩⟩
  have hread := takeCredentials_run hrun htail (noSecret_of_not_mem ht)
  rw [cutAtLast?_run ha, List.append_assoc] at hread
  exact hread

theorem takeCredentials_of_not_mem (h : '@' ∉ cs) : takeCredentials cs = (none, cs) := by
  obtain ⟨run, tail, rfl, hrun, htail⟩ := exists_run isUserChar cs
  obtain ⟨hr, ht⟩ : '@' ∉ run ∧ '@' ∉ tail := by simpa using h
  rw [takeCredentials_run hrun htail (noSecret_of_not_mem ht), cutAtLast?_of_not_mem hr]

theorem at_not_mem_takeWhile (h : '@' ∉ after) (ha : All isUserChar after)
    (ht : Stops isUserChar tail) (hs : NoSecret tail) :
    '@' ∉ (after ++ tail).takeWhile (· != '/') := by
  have hno : All (· != '/') after := ha.imp fun c hc => (Bool.and_eq_true_iff.mp hc).2
  by_cases hslash : Stops (· != '/') tail
  · rwa [takeWhile_run hno hslash]
  · -- what stops a user but is no slash is a colon
    have hall : '@' ∉ tail := by
      cases tail with
      | nil => exact List.not_mem_nil
      | cons c secret =>
        have hc : c = ':' := by simp_all [isUserChar]
        subst hc
        simpa using hs secret rfl
    intro hmem
    rcases List.mem_append.mp ((List.takeWhile_sublist _).mem hmem) with hmem | hmem
    · exact h hmem
    · exact hall hmem

/-- Without a password there is no at sign in front of the first slash. -/
theorem at_not_mem_of_takeCredentials {creds : Option (List Char × Option (List Char))}
    (h : takeCredentials cs = (creds, rest)) (hp : creds.bind (·.2) = none) :
    '@' ∉ rest.takeWhile (· != '/') := by
  obtain ⟨run, tail, rfl, hrun, htail⟩ := exists_run isUserChar cs
  by_cases hs : NoSecret tail
  · rw [takeCredentials_run hrun htail hs] at h
    split at h
    · rename_i user after hcut
      obtain ⟨rfl, ha⟩ := cutAtLast?_some hcut
      cases h
      exact at_not_mem_takeWhile ha (all_cons.mp (all_append.mp hrun).2).2 htail hs
    · rename_i hcut
      cases h
      exact at_not_mem_takeWhile (cutAtLast?_none hcut) hrun htail hs
  · simp only [NoSecret, not_forall, not_not] at hs
    obtain ⟨secret, rfl, hmem⟩ := hs
    obtain hno | ⟨password, rest, rfl, hpassword⟩ := exists_cutAt '@' secret
    · exact absurd hmem hno
    · rw [takeCredentials_password hrun hpassword] at h
      cases h
      cases hp

theorem userless_of_takeCredentials {creds : Option (List Char × Option (List Char))}
    (h : creds.map (·.1) = none) : creds.bind (·.2) = none := by
  rw [Option.map_eq_none_iff.mp h]
  rfl

end Credentials

section Host

variable {host inner : List Char}

def isAuthorityChar (c : Char) : Bool := c != '/' && c != '?'

def isPlainHostChar (c : Char) : Bool := c != '/' && c != ':' && c != '?'

theorem takePlainHost_run (hne : host ≠ []) (h : All isPlainHostChar host)
    (hr : Stops isPlainHostChar rest) : takePlainHost (host ++ rest) = (some host, rest) := by
  have htake : (host ++ rest).takeWhile (fun c => c != '/' && c != ':' && c != '?') = host :=
    takeWhile_run h hr
  simp [takePlainHost, htake, hne]

theorem takePlainHost_stop (hr : Stops isPlainHostChar rest) :
    takePlainHost rest = (none, rest) := by
  have htake : ([] ++ rest).takeWhile (fun c => c != '/' && c != ':' && c != '?') = [] :=
    takeWhile_run all_nil hr
  rw [List.nil_append] at htake
  simp [takePlainHost, htake]

/-- What stands in front of the last closing bracket is a host by itself. -/
theorem takeHost_brackets (h : All isAuthorityChar (host ++ ']' :: after)) (hne : host ≠ [])
    (ha : ']' ∉ after) (hr : Stops isAuthorityChar rest) :
    takeHost ('[' :: (host ++ ']' :: (after ++ rest))) = (some host, after ++ rest) := by
  have hrun : All isAuthorityChar ('[' :: (host ++ ']' :: after)) := all_cons.mpr ⟨by decide, h⟩
  have htake : ('[' :: (host ++ ']' :: after) ++ rest).takeWhile (fun c => c != '/' && c != '?') =
      '[' :: (host ++ ']' :: after) := takeWhile_run hrun hr
  have hdrop : ('[' :: (host ++ ']' :: after) ++ rest).drop ('[' :: (host ++ ']' :: after)).length =
      rest := List.drop_left
  have htext : '[' :: (host ++ ']' :: (after ++ rest)) = '[' :: (host ++ ']' :: after) ++ rest := by
    simp
  obtain ⟨c, host, rfl⟩ := List.exists_cons_of_ne_nil hne
  unfold takeHost
  simp only [htext, htake, hdrop, cutAtLast?_run ha]

def Bracketed (run : List Char) : Prop :=
  ∃ host after, run = '[' :: (host ++ ']' :: after) ∧ host ≠ [] ∧ ']' ∉ after

theorem takeHost_plain (h : All isAuthorityChar run) (hr : Stops isAuthorityChar rest)
    (hb : ¬ Bracketed run) : takeHost (run ++ rest) = takePlainHost (run ++ rest) := by
  have htake : (run ++ rest).takeWhile (fun c => c != '/' && c != '?') = run := takeWhile_run h hr
  unfold takeHost
  simp only [htake]
  split
  · rename_i inner
    split
    · rename_i c host after hcut
      obtain ⟨rfl, ha⟩ := cutAtLast?_some hcut
      exact absurd ⟨c :: host, after, rfl, by simp, ha⟩ hb
    · rfl
  · rfl

/-- A host is some text in front of the first slash and the first question mark. -/
theorem mem_of_takeHost (h : takeHost cs = (some host, rest)) :
    host ≠ [] ∧ ∀ c ∈ host, c ∈ cs.takeWhile isAuthorityChar := by
  obtain ⟨run, tail, rfl, hrun, htail⟩ := exists_run isAuthorityChar cs
  by_cases hb : Bracketed run
  · obtain ⟨host, after, rfl, hne, ha⟩ := hb
    have hread := takeHost_brackets (all_cons.mp hrun).2 hne ha htail
    have htext :
        '[' :: (host ++ ']' :: after) ++ tail = '[' :: (host ++ ']' :: (after ++ tail)) := by
      simp
    rw [htext, hread] at h
    cases h
    refine ⟨hne, fun c hc => ?_⟩
    rw [takeWhile_run hrun htail]
    simp [hc]
  · rw [takeHost_plain hrun htail hb] at h
    simp only [takePlainHost, Prod.mk.injEq] at h
    split at h
    · cases h.1
    · rename_i hne
      cases h.1
      refine ⟨by simpa using hne, fun c hc => ?_⟩
      refine mem_takeWhile_imp (fun c hc => ?_) hc
      simp_all [isAuthorityChar]

end Host

section Parts

variable {mark : Char} {ends : Char → Bool} {part : List Char}

theorem takePart_run (h : All (!ends ·) part) (hr : Stops (!ends ·) rest) :
    takePart mark ends (mark :: (part ++ rest)) = (some part, rest) := by
  have htake : (part ++ rest).takeWhile (!ends ·) = part := takeWhile_run h hr
  simp [takePart, htake]

theorem takePart_none (h : cs.head? ≠ some mark) : takePart mark ends cs = (none, cs) := by
  cases cs with
  | nil => rfl
  | cons c cs =>
    have hc : (c == mark) = false := by simpa using h
    simp [takePart, hc]

theorem readAfterDriver_eq {driver : String} {creds : Option (List Char × Option (List Char))}
    {host port database query : Option (List Char)} {afterUser afterHost afterPort afterDatabase
    afterQuery : List Char} (hu : takeCredentials cs = (creds, afterUser))
    (hh : takeHost afterUser = (host, afterHost))
    (hp : takePart ':' (fun c => c == '/' || c == '?') afterHost = (port, afterPort))
    (hd : takePart '/' (· == '?') afterPort = (database, afterDatabase))
    (hq : takePart '?' (· == '\n') afterDatabase = (query, afterQuery)) :
    readAfterDriver driver cs = (readPort port).map fun port =>
      ⟨driver, (creds.map (·.1)).map fun cs => String.ofList (Url.decode cs),
        (creds.bind (·.2)).map fun cs => String.ofList (Url.decode cs), host.map String.ofList,
        port, database.map fun cs => String.ofList (Url.decode cs), query.elim [] readQuery⟩ := by
  simp only [readAfterDriver, hu, hh, hp, hd, hq]

theorem readPort_bound {port : Option (List Char)} {n : Option Int} (h : readPort port = .ok n) :
    ∀ p ∈ n, p.natAbs < 10 ^ digitLimit := by
  unfold readPort at h
  split at h
  · cases h
    nofun
  · split at h
    · rename_i hread
      cases h
      rintro p ⟨rfl⟩
      exact natAbs_lt_of_readWhole hread
    · cases h

end Parts

theorem proper_of_readAfterDriver {driver : String} (h : readAfterDriver driver cs = .ok u) :
    u.Proper := by
  rcases hu : takeCredentials cs with ⟨creds, afterUser⟩
  rcases hh : takeHost afterUser with ⟨host, afterHost⟩
  rcases hp : takePart ':' (fun c => c == '/' || c == '?') afterHost with ⟨port, afterPort⟩
  rcases hd : takePart '/' (· == '?') afterPort with ⟨database, afterDatabase⟩
  rcases hq : takePart '?' (· == '\n') afterDatabase with ⟨query, afterQuery⟩
  rw [readAfterDriver_eq hu hh hp hd hq] at h
  cases hport : readPort port with
  | error f =>
    rw [hport] at h
    cases h
  | ok n =>
    rw [hport] at h
    cases h
    have hchars : ∀ h ∈ host, h ≠ [] ∧ ∀ c ∈ h, c ∈ afterUser.takeWhile isAuthorityChar := by
      rintro h ⟨rfl⟩
      exact mem_of_takeHost hh
    refine ⟨?_, ?_, ?_, readPort_bound hport, ?_⟩
    · intro s hs
      obtain ⟨h, hmem, rfl⟩ := Option.map_eq_some_iff.mp hs
      obtain ⟨hne, hin⟩ := hchars h hmem
      have hall := all_takeWhile isAuthorityChar afterUser
      rw [String.toList_ofList]
      refine ⟨ofList_ne_empty hne, fun hc => ?_, fun hc => ?_⟩
      · exact absurd (hall _ (hin _ hc)) (by decide)
      · exact absurd (hall _ (hin _ hc)) (by decide)
    · intro hsecret s hs
      obtain ⟨h, hmem, rfl⟩ := Option.map_eq_some_iff.mp hs
      have hno := at_not_mem_of_takeCredentials hu (Option.map_eq_none_iff.mp hsecret)
      rw [String.toList_ofList]
      refine fun hc => hno (mem_takeWhile_imp (fun c hc => ?_) ((hchars h hmem).2 _ hc))
      exact (Bool.and_eq_true_iff.mp hc).1
    · intro huser
      rw [Option.map_eq_none_iff]
      exact userless_of_takeCredentials (Option.map_eq_none_iff.mp huser)
    · cases query with
      | none => exact ProperQuery.nil
      | some q => exact properQuery_readQuery q

theorem proper_of_read {s : String} (h : read s = .ok u) : u.Proper := by
  unfold read at h
  dsimp only at h
  split at h
  · split at h
    · cases h
    · exact proper_of_readAfterDriver h
  · cases h

section Written

variable {port : Option Int}

theorem credentialsText_eq (u : DatabaseUrl) : u.credentialsText.toList =
    u.user.elim [] fun user => (encodeName user).toList ++
      u.password.elim ['@'] fun p => ':' :: ((encodeName p).toList ++ ['@']) := by
  unfold credentialsText
  cases u.user with
  | none => rfl
  | some user =>
    cases u.password with
    | none => simp
    | some p => simp

theorem all_isUserChar_encodeName (s : String) : All isUserChar (encodeName s).toList := by
  intro c hc
  rw [encodeName, String.toList_ofList] at hc
  have hcolon : c ≠ ':' := fun h =>
    Url.not_mem_encode (by decide) (by decide) (by decide) _ (h ▸ hc)
  have hslash : c ≠ '/' := fun h =>
    Url.not_mem_encode (by decide) (by decide) (by decide) _ (h ▸ hc)
  simp [isUserChar, hcolon, hslash]

theorem at_not_mem_encodeName (s : String) : '@' ∉ (encodeName s).toList := by
  rw [encodeName, String.toList_ofList]
  exact Url.not_mem_encode (by decide) (by decide) (by decide) _

theorem decode_encodeName (s : String) :
    String.ofList (Url.decode (encodeName s).toList) = s := by
  rw [encodeName, String.toList_ofList, Url.decode_encode (by decide), String.ofList_toList]

theorem decode_encodeDatabase (s : String) :
    String.ofList (Url.decode (encodeDatabase s).toList) = s := by
  rw [encodeDatabase, String.toList_ofList, Url.decode_encode (by decide), String.ofList_toList]

def writtenCredentials (u : DatabaseUrl) : Option (List Char × Option (List Char)) :=
  u.user.map fun user => ((encodeName user).toList, u.password.map fun p => (encodeName p).toList)

theorem user_writtenCredentials (u : DatabaseUrl) : (u.writtenCredentials.map (·.1)).map
    (fun cs => String.ofList (Url.decode cs)) = u.user := by
  cases h : u.user with
  | none => simp [writtenCredentials, h]
  | some user => simp [writtenCredentials, h, decode_encodeName]

theorem password_writtenCredentials (h : u.user = none → u.password = none) :
    (u.writtenCredentials.bind (·.2)).map (fun cs => String.ofList (Url.decode cs)) =
      u.password := by
  cases hu : u.user with
  | none => simp [writtenCredentials, hu, h hu]
  | some user => cases hp : u.password <;> simp [writtenCredentials, hu, hp, decode_encodeName]

theorem takeCredentials_text (hu : u.user = none → u.password = none)
    (hr : u.password = none → '@' ∉ rest) : takeCredentials (u.credentialsText.toList ++ rest) =
      (u.writtenCredentials, rest) := by
  rw [credentialsText_eq, writtenCredentials]
  cases huser : u.user with
  | none => exact takeCredentials_of_not_mem (hr (hu huser))
  | some user =>
    cases hp : u.password with
    | none =>
      have hread := takeCredentials_user (all_isUserChar_encodeName user) (hr hp)
      simpa using hread
    | some p =>
      have hread := takeCredentials_password (all_isUserChar_encodeName user)
        (at_not_mem_encodeName p) rest
      simpa using hread

def portText (port : Option Int) : List Char := port.elim [] fun p => ':' :: (toString p).toList

theorem mem_portText {c : Char} (h : c ∈ portText port) : c = ':' ∨ c = '-' ∨ isDigit c = true := by
  cases port with
  | none => cases h
  | some p =>
    rcases List.mem_cons.mp h with rfl | h
    · exact .inl rfl
    · exact .inr (mem_toString h)

theorem not_mem_portText {d : Char} (hcolon : d ≠ ':') (hminus : d ≠ '-')
    (hdigit : isDigit d = false) : d ∉ portText port := by
  intro h
  obtain rfl | rfl | h := mem_portText h
  · exact hcolon rfl
  · exact hminus rfl
  · rw [hdigit] at h
    cases h

theorem all_isAuthorityChar_portText (port : Option Int) : All isAuthorityChar (portText port) := by
  intro c hc
  have hslash : c ≠ '/' := fun h =>
    not_mem_portText (by decide) (by decide) (by decide) (h ▸ hc)
  have hquestion : c ≠ '?' := fun h =>
    not_mem_portText (by decide) (by decide) (by decide) (h ▸ hc)
  simp [isAuthorityChar, hslash, hquestion]

theorem takePart_portText (h : ∀ p ∈ port, p.natAbs < 10 ^ digitLimit) (rest : List Char) :
    ∃ digits, takePart ':' (fun c => c == '/' || c == '?') (portText port ++ '/' :: rest) =
      (digits, '/' :: rest) ∧ readPort digits = .ok port := by
  cases port with
  | none => exact ⟨none, takePart_none (by simp [portText]), rfl⟩
  | some p =>
    have hall : All (fun c => !(c == '/' || c == '?')) (toString p).toList := by
      refine All.imp (all_cons.mp (all_isAuthorityChar_portText (some p))).2 fun c hc => ?_
      simpa [isAuthorityChar] using hc
    refine ⟨some (toString p).toList, takePart_run hall (by simp), ?_⟩
    rw [readPort, String.ofList_toList, readWhole_toString (h p rfl)]

/-- A host without a colon that begins with brackets around some text and goes on after them. -/
def FallsApart (host : String) : Prop :=
  ':' ∉ host.toList ∧ ∃ inner after, host.toList = '[' :: (inner ++ ']' :: after) ∧ inner ≠ [] ∧
    ']' ∉ after ∧ after ≠ []

theorem hostText_eq (host : String) : (hostText host).toList =
    if ':' ∈ host.toList then '[' :: (host.toList ++ [']']) else host.toList := by
  rw [hostText, String.contains_char_eq]
  split
  · rename_i h
    simp [of_decide_eq_true h]
  · rename_i h
    rw [if_neg (by simpa using h)]

theorem all_isAuthorityChar {host : List Char} (hs : '/' ∉ host) (hq : '?' ∉ host) :
    All isAuthorityChar host := by
  intro c hc
  have hslash : c ≠ '/' := fun h => hs (h ▸ hc)
  have hquestion : c ≠ '?' := fun h => hq (h ▸ hc)
  simp [isAuthorityChar, hslash, hquestion]

theorem bracketed_of_append {more : List Char} (hm : ']' ∉ more) (hne : run ≠ [])
    (h : Bracketed (run ++ more)) : Bracketed run := by
  obtain ⟨host, after, heq, hhost, ha⟩ := h
  obtain ⟨c, run, rfl⟩ := List.exists_cons_of_ne_nil hne
  obtain ⟨hc, hrest⟩ := List.cons.inj heq
  subst hc
  obtain ⟨middle, rfl, hmore⟩ | ⟨middle, rfl, hafter⟩ := List.append_eq_append_iff.mp hrest
  · exact absurd (hmore ▸ by simp) hm
  · cases middle with
    | nil =>
      rw [List.nil_append] at hafter
      exact absurd (hafter ▸ List.mem_cons_self) hm
    | cons d middle =>
      obtain ⟨rfl, rfl⟩ := List.cons.inj hafter
      exact ⟨host, middle, by simp, hhost, fun hc => ha (List.mem_append_left _ hc)⟩

section HostText

variable {host : String} (hs : '/' ∉ host.toList) (hq : '?' ∉ host.toList)

include hs hq

/-- A text in brackets at the front of a host without a colon is taken for the host. -/
theorem takeHost_inner {inner after : List Char} (hcolon : ':' ∉ host.toList)
    (heq : host.toList = '[' :: (inner ++ ']' :: after)) (hinner : inner ≠ [])
    (hbracket : ']' ∉ after) (port : Option Int) (rest : List Char) :
    takeHost ((hostText host).toList ++ (portText port ++ '/' :: rest)) =
      (some inner, after ++ (portText port ++ '/' :: rest)) := by
  have hport := all_isAuthorityChar_portText port
  have hhost := all_isAuthorityChar hs hq
  rw [heq, all_cons, all_append, all_cons] at hhost
  have hclosed : All isAuthorityChar (inner ++ ']' :: (after ++ portText port)) := by
    rw [all_append, all_cons, all_append]
    exact ⟨hhost.2.1, hhost.2.2.1, hhost.2.2.2, hport⟩
  have hno : ']' ∉ after ++ portText port := by
    rw [List.mem_append, not_or]
    exact ⟨hbracket, not_mem_portText (by decide) (by decide) (by decide)⟩
  have hstop : Stops isAuthorityChar ('/' :: rest) := stops_cons.mpr (by decide)
  have hread := takeHost_brackets hclosed hinner hno hstop
  rw [hostText_eq, if_neg hcolon, heq]
  simpa using hread

theorem takeHost_apart (h : FallsApart host) (port : Option Int) (rest : List Char) :
    ∃ found c tail, takeHost ((hostText host).toList ++ (portText port ++ '/' :: rest)) =
      (some found, c :: tail) ∧ c ≠ ':' ∧ c ≠ '/' ∧ c ≠ '?' := by
  obtain ⟨hcolon, inner, after, heq, hinner, hbracket, hafter⟩ := h
  obtain ⟨c, after, rfl⟩ := List.exists_cons_of_ne_nil hafter
  refine ⟨inner, c, _, takeHost_inner hs hq hcolon heq hinner hbracket port rest, ?_⟩
  have hmem : c ∈ host.toList := by simp [heq]
  exact ⟨fun h => hcolon (h ▸ hmem), fun h => hs (h ▸ hmem), fun h => hq (h ▸ hmem)⟩

theorem takeHost_kept (hne : host ≠ "") (h : ¬ FallsApart host) (port : Option Int)
    (rest : List Char) :
    ∃ found, takeHost ((hostText host).toList ++ (portText port ++ '/' :: rest)) =
      (found, portText port ++ '/' :: rest) := by
  have hport := all_isAuthorityChar_portText port
  have hbracket : ']' ∉ portText port := not_mem_portText (by decide) (by decide) (by decide)
  have hstop : Stops isAuthorityChar ('/' :: rest) := stops_cons.mpr (by decide)
  have hhost := all_isAuthorityChar hs hq
  have hnil : host.toList ≠ [] := fun hnil => hne (String.toList_inj.mp (hnil.trans rfl))
  by_cases hcolon : ':' ∈ host.toList
  · have hclosed : All isAuthorityChar (host.toList ++ ']' :: portText port) :=
      all_append.mpr ⟨hhost, all_cons.mpr ⟨by decide, hport⟩⟩
    have hread := takeHost_brackets hclosed hnil hbracket hstop
    rw [hostText_eq, if_pos hcolon]
    exact ⟨_, by simpa using hread⟩
  · by_cases hb : Bracketed host.toList
    · obtain ⟨inner, after, heq, hinner, hlast⟩ := hb
      have hafter : after = [] := by
        by_contra hafter
        exact h ⟨hcolon, inner, after, heq, hinner, hlast, hafter⟩
      have hread := takeHost_inner hs hq hcolon heq hinner hlast port rest
      rw [hafter, List.nil_append] at hread
      exact ⟨_, hread⟩
    · have hplain : All isPlainHostChar host.toList := by
        intro c hc
        have hne : c ≠ ':' := fun h => hcolon (h ▸ hc)
        have hother := hhost c hc
        simp_all [isAuthorityChar, isPlainHostChar]
      have htail : Stops isPlainHostChar (portText port ++ '/' :: rest) := by
        cases port with
        | none => exact stops_cons.mpr (by decide)
        | some p => exact stops_cons.mpr (by decide)
      rw [hostText_eq, if_neg hcolon, ← List.append_assoc, takeHost_plain
        (all_append.mpr ⟨hhost, hport⟩) hstop
        fun hrun => hb (bracketed_of_append hbracket hnil hrun),
        List.append_assoc, takePlainHost_run hnil hplain htail]
      exact ⟨_, rfl⟩

end HostText

theorem takeHost_portText (port : Option Int) (rest : List Char) :
    takeHost (portText port ++ '/' :: rest) = (none, portText port ++ '/' :: rest) := by
  have hb : ¬ Bracketed (portText port) := by
    rintro ⟨host, after, heq, -⟩
    cases port with
    | none => cases heq
    | some p => cases heq
  have hstop : Stops isPlainHostChar (portText port ++ '/' :: rest) := by
    cases port with
    | none => exact stops_cons.mpr (by decide)
    | some p => exact stops_cons.mpr (by decide)
  rw [takeHost_plain (all_isAuthorityChar_portText port) (stops_cons.mpr (by decide)) hb]
  exact takePlainHost_stop hstop

end Written

section ReadWritten

variable {d : String}

theorem read_scheme {s : String} {scheme : List Char}
    (hs : s.toList = scheme ++ ':' :: '/' :: '/' :: cs) (hne : scheme ≠ [])
    (hall : All (fun c => isWordCharacter c || c == '+') scheme) :
    read s = readAfterDriver (String.ofList scheme) cs := by
  have htake := takeWhile_run hall (stops_cons.mpr (by decide) : Stops _ (':' :: '/' :: '/' :: cs))
  unfold read
  simp only [hs, htake, List.drop_left]
  rw [if_neg (by simpa using hne)]

theorem read_driver {s : String}
    (h : s.toList = Location.driver.toList ++ ':' :: '/' :: '/' :: cs) :
    read s = readAfterDriver Location.driver cs := read_scheme h (by decide) (by decide)

def hostOnText (u : DatabaseUrl) (d : String) : List Char :=
  (u.host.elim [] fun h => (hostText h).toList) ++ (portText u.port ++
    '/' :: ((encodeDatabase d).toList ++ (queryText u.query).toList))

theorem toList_text (hd : u.database = some d) :
    ({ u with driver := Location.driver } : DatabaseUrl).text.toList =
      Location.driver.toList ++
        ':' :: '/' :: '/' :: (u.credentialsText.toList ++ u.hostOnText d) := by
  have hhost : (u.host.elim "" hostText).toList = u.host.elim [] fun h => (hostText h).toList := by
    cases u.host <;> rfl
  have hport : (u.port.elim "" fun p => s!":{p}").toList = portText u.port := by
    cases u.port with
    | none => rfl
    | some p =>
      simp [portText]
      rfl
  simp only [text, hd, String.toList_append, hhost, hport, Option.elim_some, hostOnText,
    List.append_assoc]
  rfl

theorem at_not_mem_hostOnText (hu : u.Proper) (hp : u.password = none) (d : String) :
    '@' ∉ u.hostOnText d := by
  have hhost : '@' ∉ u.host.elim [] fun h => (hostText h).toList := by
    cases h : u.host with
    | none => exact List.not_mem_nil
    | some host =>
      have hno := hu.hostless hp host h
      rw [Option.elim_some, hostText_eq]
      split
      · simpa using hno
      · exact hno
  have hport : '@' ∉ portText u.port := not_mem_portText (by decide) (by decide) (by decide)
  have hdatabase : '@' ∉ (encodeDatabase d).toList := by
    rw [encodeDatabase, String.toList_ofList]
    exact Url.not_mem_encode (by decide) (by decide) (by decide) _
  have hquery : '@' ∉ (queryText u.query).toList := not_mem_queryText (by decide) (by decide)
    (by decide) (by decide) (by decide) (by decide) (by decide) _
  simp [hostOnText, hhost, hport, hdatabase, hquery]

/-- The first slash after user and password is the one in front of the database. -/
theorem slash_not_mem_text (hu : u.Proper) :
    '/' ∉ u.credentialsText.toList ++ ((u.host.elim [] fun h => (hostText h).toList) ++
      portText u.port) := by
  have hname (s : String) : '/' ∉ (encodeName s).toList := fun h =>
    absurd (all_isUserChar_encodeName s _ h) (by decide)
  have hcreds : '/' ∉ u.credentialsText.toList := by
    rw [credentialsText_eq]
    cases u.user with
    | none => exact List.not_mem_nil
    | some user => cases u.password <;> simp [hname]
  have hhost : '/' ∉ u.host.elim [] fun h => (hostText h).toList := by
    cases h : u.host with
    | none => exact List.not_mem_nil
    | some host =>
      have hno := (hu.host host h).2.1
      rw [Option.elim_some, hostText_eq]
      split
      · simpa using hno
      · exact hno
  have hport : '/' ∉ portText u.port := not_mem_portText (by decide) (by decide) (by decide)
  simp [hcreds, hhost, hport]

theorem takePart_database (d : String) (q : Query) :
    takePart '/' (· == '?') ('/' :: ((encodeDatabase d).toList ++ (queryText q).toList)) =
      (some (encodeDatabase d).toList, (queryText q).toList) := by
  have hall : All (fun c => !(c == '?')) (encodeDatabase d).toList := by
    intro c hc
    rw [encodeDatabase, String.toList_ofList] at hc
    have hquestion : c ≠ '?' := fun h =>
      Url.not_mem_encode (by decide) (by decide) (by decide) _ (h ▸ hc)
    simpa using hquestion
  have hstop : Stops (fun c => !(c == '?')) (queryText q).toList := by
    rw [queryText_eq]
    split
    · exact stops_nil
    · exact stops_cons.mpr (by decide)
  exact takePart_run hall hstop

theorem takePart_query {q : Query} (h : ProperQuery q) : ∃ query,
    takePart '?' (· == '\n') (queryText q).toList = (query, []) ∧
      query.elim [] readQuery = sorted q := by
  rw [queryText_eq]
  split
  · rename_i hq
    exact ⟨none, rfl, (sorted_eq_nil.mpr hq).symm⟩
  · rename_i hq
    have hall : All (fun c => !(c == '\n')) (['&'].intercalate (itemTexts (sorted q))) := by
      intro c hc
      have hnewline : c ≠ '\n' := fun h => not_mem_itemTexts (by decide) (by decide) (by decide)
        (by decide) (by decide) (by decide) _ (h ▸ hc)
      simpa using hnewline
    have hread := @takePart_run [] '?' (· == '\n') _ hall stops_nil
    rw [List.append_nil] at hread
    have hne : sorted q ≠ [] := fun hnil => hq (sorted_eq_nil.mp hnil)
    exact ⟨_, hread, readQuery_itemTexts h.sorted hne⟩

/-- A URL that has been read is written so that nothing but its host can come out changed. -/
theorem exists_read_text (hu : u.Proper) (hd : u.database = some d)
    (hh : ∀ h ∈ u.host, ¬ FallsApart h) :
    ∃ host, read ({ u with driver := Location.driver } : DatabaseUrl).text =
      .ok { u with driver := Location.driver, host := host, query := sorted u.query } := by
  have hcreds := takeCredentials_text hu.userless fun hp => at_not_mem_hostOnText hu hp d
  obtain ⟨found, hhost⟩ : ∃ found, takeHost (u.hostOnText d) = (found, portText u.port ++
      '/' :: ((encodeDatabase d).toList ++ (queryText u.query).toList)) := by
    unfold hostOnText
    cases h : u.host with
    | none => exact ⟨none, takeHost_portText ..⟩
    | some host =>
      obtain ⟨hne, hs, hq⟩ := hu.host host h
      exact takeHost_kept hs hq hne (hh host h) u.port _
  obtain ⟨digits, hport, hportRead⟩ := takePart_portText hu.port
    ((encodeDatabase d).toList ++ (queryText u.query).toList)
  obtain ⟨query, hquery, hqueryRead⟩ := takePart_query hu.query
  refine ⟨found.map String.ofList, ?_⟩
  rw [read_driver (toList_text hd), readAfterDriver_eq hcreds hhost hport (takePart_database d _)
    hquery, hportRead, hqueryRead, user_writtenCredentials, password_writtenCredentials hu.userless,
    Option.map_some, decode_encodeDatabase, ← hd]
  rfl

/-- A host that falls apart leaves nothing behind that could be a database or a query. -/
theorem exists_read_text_apart {host : String} (hu : u.Proper) (hd : u.database = some d)
    (hh : u.host = some host) (ha : FallsApart host) :
    ∃ w, read ({ u with driver := Location.driver } : DatabaseUrl).text = .ok w ∧
      w.database = none := by
  obtain ⟨-, hs, hq⟩ := hu.host host hh
  have hcreds := takeCredentials_text hu.userless fun hp => at_not_mem_hostOnText hu hp d
  obtain ⟨found, c, tail, hhost, hcolon, hslash, hquestion⟩ := takeHost_apart hs hq ha u.port
    ((encodeDatabase d).toList ++ (queryText u.query).toList)
  have hhost : takeHost (u.hostOnText d) = (some found, c :: tail) := by
    rw [hostOnText, hh]
    exact hhost
  have hnone {mark : Char} {ends : Char → Bool} (h : c ≠ mark) :
      takePart mark ends (c :: tail) = (none, c :: tail) := takePart_none (by simpa using h)
  rw [read_driver (toList_text hd), readAfterDriver_eq hcreds hhost (hnone hcolon) (hnone hslash)
    (hnone hquestion)]
  exact ⟨_, rfl, rfl⟩

end ReadWritten

end MetricArchive.DatabaseUrl
