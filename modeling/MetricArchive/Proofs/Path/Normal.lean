import MetricArchive.Path.Basic
import MetricArchive.Proofs.Text.Cuts

/-!
# Paths in normal form

Main statements: a path in normal form is read back from its text, every path that is read is in
normal form, also with a home in front, and two slashes in a row stand nowhere but at its front.
-/
namespace MetricArchive.Path

open Text

structure ProperName (name : String) : Prop where
  nonempty : name ≠ ""
  undotted : name ≠ "."
  slashless : '/' ∉ name.toList

structure Normal (p : Path) : Prop where
  root : p.root = "" ∨ p.root = "/" ∨ p.root = "//"
  names : ∀ name ∈ p.names, ProperName name

theorem Normal.slashes {p : Path} (h : p.Normal) :
    All (· == '/') p.root.toList ∧ rootOf p.root.toList.length = p.root := by
  obtain h | h | h := h.root
  all_goals
    rw [h]
    decide

variable {p : Path} {homes : Homes} {names : List String}

theorem rootOf_cases (n : Nat) : rootOf n = "" ∨ rootOf n = "/" ∨ rootOf n = "//" := by
  unfold rootOf
  split
  · exact .inl rfl
  · split
    · exact .inr (.inr rfl)
    · exact .inr (.inl rfl)

def readNames (cs : List Char) : List String :=
  ((split '/' cs).filter fun n => n != [] && n != ['.']).map String.ofList

theorem properName_of_mem_readNames {cs : List Char} {name : String} (h : name ∈ readNames cs) :
    ProperName name := by
  obtain ⟨n, hn, rfl⟩ := List.mem_map.mp h
  obtain ⟨hmem, hkept⟩ := List.mem_filter.mp hn
  simp only [Bool.and_eq_true, bne_iff_ne] at hkept
  refine ⟨fun h => hkept.1 ?_, fun h => hkept.2 ?_, ?_⟩
  · simpa using congrArg String.toList h
  · simpa using congrArg String.toList h
  · rw [String.toList_ofList]
    exact not_mem_of_mem_split hmem

theorem normal_ofText (s : String) : (ofText s).Normal :=
  ⟨rootOf_cases _, fun _ => properName_of_mem_readNames⟩

theorem Normal.expandHome (h : p.Normal) {q : Path} (hq : p.expandHome? homes = some q) :
    q.Normal := by
  obtain ⟨root, names⟩ := p
  unfold expandHome? at hq
  dsimp only at hq
  split at hq
  · rename_i first rest
    split at hq
    · obtain ⟨home, -, rfl⟩ := Option.map_eq_some_iff.mp hq
      refine ⟨(normal_ofText home).root, fun name hname => ?_⟩
      rcases List.mem_append.mp hname with hname | hname
      · exact (normal_ofText home).names name hname
      · exact h.names name (List.mem_cons_of_mem _ hname)
    · cases hq
      exact h
  · cases hq
    exact h

def body (names : List String) : List Char := ['/'].intercalate (names.map String.toList)

theorem toList_text (h : p.root ≠ "" ∨ p.names ≠ []) :
    p.text.toList = p.root.toList ++ body p.names := by
  have hcond : (p.root.isEmpty && p.names.isEmpty) = false := by
    rw [Bool.and_eq_false_iff, List.isEmpty_eq_false_iff, String.isEmpty_eq_false_iff]
    exact h
  rw [text, hcond]
  simp [body]

theorem ProperName.toList_ne_nil {name : String} (h : ProperName name) : name.toList ≠ [] :=
  fun hnil => h.nonempty (String.toList_inj.mp (hnil.trans rfl))

theorem split_body (h : ∀ name ∈ names, ProperName name) (hne : names ≠ []) :
    split '/' (body names) = names.map String.toList := by
  refine split_intercalate (by simpa using hne) fun part hpart => ?_
  obtain ⟨name, hname, rfl⟩ := List.mem_map.mp hpart
  exact (h name hname).slashless

theorem readNames_body (h : ∀ name ∈ names, ProperName name) : readNames (body names) = names := by
  cases hn : names with
  | nil => rfl
  | cons name rest =>
    rw [← hn, readNames, split_body h (by simp [hn])]
    have hkept : (names.map String.toList).filter (fun n => n != [] && n != ['.']) =
        names.map String.toList := by
      rw [List.filter_eq_self]
      intro part hpart
      obtain ⟨name, hname, rfl⟩ := List.mem_map.mp hpart
      have hproper := h name hname
      have hdot : name.toList ≠ ['.'] := fun hdot =>
        hproper.undotted (String.toList_inj.mp (hdot.trans rfl))
      simp [hproper.toList_ne_nil, hdot]
    rw [hkept, List.map_map]
    simp [Function.comp_def]

/-- The names do not begin with a slash. -/
theorem stops_body (h : ∀ name ∈ names, ProperName name) : Stops (· == '/') (body names) := by
  cases hn : names with
  | nil => exact stops_nil
  | cons name rest =>
    have hproper : ProperName name := h name (by simp [hn])
    obtain ⟨c, cs, hc⟩ := List.exists_cons_of_ne_nil hproper.toList_ne_nil
    have hslash : c ≠ '/' := by
      rintro rfl
      exact hproper.slashless (by simp [hc])
    cases rest with
    | nil => simp [body, hc, hslash]
    | cons next rest => simp [body, List.intercalate_cons_cons, hc, hslash]

theorem readNames_slash (cs : List Char) : readNames ('/' :: cs) = readNames cs := by
  simp [readNames, split]

/-- Slashes in front of names that do not begin with any are the root. -/
theorem ofText_of_toList {s : String} {slashes : List Char} (hs : s.toList = slashes ++ body names)
    (hall : All (· == '/') slashes) (h : ∀ name ∈ names, ProperName name) :
    ofText s = ⟨rootOf slashes.length, names⟩ := by
  have hread : readNames (slashes ++ body names) = names := by
    induction slashes generalizing s with
    | nil => exact readNames_body h
    | cons c slashes ih =>
      obtain ⟨hc, hall⟩ := all_cons.mp hall
      rw [List.cons_append, beq_iff_eq.mp hc, readNames_slash]
      exact ih (String.toList_ofList (l := slashes ++ body names)) hall
  have htext : ofText s = ⟨rootOf (s.toList.takeWhile (· == '/')).length, readNames s.toList⟩ := rfl
  rw [htext, hs, takeWhile_run hall (stops_body h), hread]

theorem ofText_text (h : p.Normal) : ofText p.text = p := by
  by_cases hnone : p.root = "" ∧ p.names = []
  · obtain ⟨root, names⟩ := p
    obtain ⟨rfl, rfl⟩ := hnone
    decide
  · obtain ⟨hall, hroot⟩ := h.slashes
    rw [ofText_of_toList (toList_text (not_and_or.mp hnone)) hall h.names, hroot]

theorem text_ne_empty (h : p.Normal) : p.text ≠ "" := by
  intro hempty
  have hback := ofText_text h
  rw [hempty] at hback
  subst hback
  revert hempty
  decide

theorem not_infix_body (h : ∀ name ∈ names, ProperName name) (c : Char) :
    ¬ [c, '/', '/'] <:+: body names := by
  rintro ⟨before, after, heq⟩
  have hne : names ≠ [] := by
    rintro rfl
    simp [body] at heq
  have hsplit : names.map String.toList =
      split '/' (before ++ [c]) ++ [] :: split '/' after := by
    have htext : body names = (before ++ [c]) ++ '/' :: '/' :: after := by simp [← heq]
    rw [← split_body h hne, htext, split_append_cons]
    simp [split]
  have hmem : [] ∈ names.map String.toList := by simp [hsplit]
  obtain ⟨name, hname, hnil⟩ := List.mem_map.mp hmem
  exact (h name hname).toList_ne_nil hnil

/-- Two slashes in a row after anything else would be a name that is dropped. -/
theorem not_infix_text (h : p.Normal) {c : Char} (hc : c ≠ '/') :
    ¬ [c, '/', '/'] <:+: p.text.toList := by
  by_cases hnone : p.root = "" ∧ p.names = []
  · intro hinfix
    have hlen := hinfix.length_le
    simp [text, hnone] at hlen
  · rintro ⟨before, after, heq⟩
    rw [toList_text (not_and_or.mp hnone), List.append_assoc] at heq
    obtain ⟨more, hroot, hbody⟩ | ⟨more, -, hbody⟩ := List.append_eq_append_iff.mp heq
    · cases more with
      | nil => exact not_infix_body h.names c ⟨[], after, by simpa using hbody⟩
      | cons d more =>
        obtain ⟨rfl, -⟩ := List.cons.inj hbody
        have hslash := h.slashes.1 c (hroot ▸ by simp)
        exact hc (beq_iff_eq.mp hslash)
    · exact not_infix_body h.names c ⟨more, after, by simp [hbody]⟩

end MetricArchive.Path
