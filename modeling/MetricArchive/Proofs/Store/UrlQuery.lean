import Mathlib.Data.List.Nodup
import MetricArchive.Proofs.Text.Cuts
import MetricArchive.Proofs.Url.Percent
import MetricArchive.Store.Opening

/-!
# Queries of database URLs

Main statements: every query that is read has each key once and some value for it, none of them
empty, and such a query is read back from its text in the order of its keys. The order of the keys
changes neither what a setting says nor the URI that the rest of the query is part of.
-/
namespace MetricArchive.DatabaseUrl

open Text

abbrev Query := List (String × List String)

/-- What reading leaves in a query. -/
structure ProperQuery (q : Query) : Prop where
  nodup : (q.map (·.1)).Nodup
  given : ∀ item ∈ q, item.2 ≠ []
  nonempty : ∀ item ∈ q, ∀ v ∈ item.2, v ≠ ""

variable {q : Query} {key v : String} {vs : List String}

theorem addValue_new (h : key ∉ q.map (·.1)) (v : String) :
    addValue q key v = q ++ [(key, [v])] := by
  have hany : q.any (·.1 == key) = false := by
    rw [List.any_eq_false]
    rintro item hitem heq
    exact h (List.mem_map.mpr ⟨item, hitem, beq_iff_eq.mp heq⟩)
  simp [addValue, hany]

theorem addValue_old (h : key ∈ q.map (·.1)) (v : String) :
    addValue q key v = q.map fun item => if item.1 = key then (key, item.2 ++ [v]) else item := by
  have hany : q.any (·.1 == key) = true := by
    obtain ⟨item, hitem, heq⟩ := List.mem_map.mp h
    exact List.any_eq_true.mpr ⟨item, hitem, beq_iff_eq.mpr heq⟩
  rw [addValue, if_pos hany]
  refine List.map_congr_left fun item _ => ?_
  by_cases hk : item.1 = key
  · simp [hk]
  · simp [hk]

theorem keys_addValue (q : Query) (key v : String) : (addValue q key v).map (·.1) =
    if key ∈ q.map (·.1) then q.map (·.1) else q.map (·.1) ++ [key] := by
  split
  · rename_i hkey
    rw [addValue_old hkey, List.map_map]
    refine List.map_congr_left fun item _ => ?_
    by_cases hk : item.1 = key
    · simp [hk]
    · simp [hk]
  · rename_i hkey
    rw [addValue_new hkey, List.map_append]
    rfl

theorem mem_addValue {item : String × List String} (h : item ∈ addValue q key v) :
    item ∈ q ∨ ∃ vs, (vs = [] ∨ (key, vs) ∈ q) ∧ item = (key, vs ++ [v]) := by
  by_cases hkey : key ∈ q.map (·.1)
  · rw [addValue_old hkey] at h
    obtain ⟨old, hold, rfl⟩ := List.mem_map.mp h
    split
    · rename_i hk
      exact .inr ⟨old.2, .inr (hk ▸ hold), rfl⟩
    · exact .inl hold
  · rw [addValue_new hkey] at h
    rcases List.mem_append.mp h with h | h
    · exact .inl h
    · exact .inr ⟨[], .inl rfl, List.mem_singleton.mp h⟩

theorem ProperQuery.nil : ProperQuery [] := ⟨List.nodup_nil, nofun, nofun⟩

theorem ProperQuery.addValue (h : ProperQuery q) (key : String) (hv : v ≠ "") :
    ProperQuery (addValue q key v) where
  nodup := by
    rw [keys_addValue]
    split
    · exact h.nodup
    · rename_i hkey
      exact h.nodup.append (List.nodup_singleton key) (by simpa using hkey)
  given item hitem := by
    obtain hitem | ⟨vs, -, rfl⟩ := mem_addValue hitem
    · exact h.given item hitem
    · simp
  nonempty item hitem w hw := by
    obtain hitem | ⟨vs, hvs, rfl⟩ := mem_addValue hitem
    · exact h.nonempty item hitem w hw
    · rcases List.mem_append.mp hw with hw | hw
      · rcases hvs with rfl | hvs
        · cases hw
        · exact h.nonempty _ hvs w hw
      · rwa [List.mem_singleton.mp hw]

theorem ofList_ne_empty {cs : List Char} (h : cs ≠ []) : String.ofList cs ≠ "" := by
  rw [ne_eq, ← String.toList_inj, String.toList_ofList]
  exact h

theorem decodePlus_ne_empty {cs : List Char} (h : cs ≠ []) : decodePlus cs ≠ "" := by
  refine ofList_ne_empty (Url.decode_ne_nil ?_)
  rwa [ne_eq, List.map_eq_nil_iff]

def addItem (q : Query) (item : List Char) : Query :=
  match cutAt '=' item with
  | (key, some (c :: value)) => addValue q (decodePlus key) (decodePlus (c :: value))
  | _ => q

theorem readQuery_eq (cs : List Char) : readQuery cs = (split '&' cs).foldl addItem [] := rfl

theorem ProperQuery.addItem (h : ProperQuery q) (item : List Char) :
    ProperQuery (addItem q item) := by
  unfold DatabaseUrl.addItem
  split
  · exact h.addValue _ (decodePlus_ne_empty (by simp))
  · exact h

theorem ProperQuery.foldl (h : ProperQuery q) (items : List (List Char)) :
    ProperQuery (items.foldl DatabaseUrl.addItem q) := by
  induction items generalizing q with
  | nil => exact h
  | cons item items ih => exact ih (h.addItem item)

theorem properQuery_readQuery (cs : List Char) : ProperQuery (readQuery cs) :=
  ProperQuery.nil.foldl _

def itemText (key v : String) : List Char :=
  Url.encodePlus key.toList ++ '=' :: Url.encodePlus v.toList

theorem decodePlus_encodePlus (s : String) : decodePlus (Url.encodePlus s.toList) = s := by
  rw [decodePlus, Url.decode_encodePlus, String.ofList_toList]

theorem addItem_itemText (q : Query) (key : String) (hv : v ≠ "") :
    addItem q (itemText key v) = addValue q key v := by
  have hkey : '=' ∉ Url.encodePlus key.toList :=
    Url.not_mem_encodePlus (by decide) (by decide) (by decide) (by decide) _
  have hvalue : Url.encodePlus v.toList ≠ [] := by
    refine Url.encodePlus_ne_nil fun h => hv ?_
    rw [← String.toList_inj, h, String.toList_empty]
  obtain ⟨c, value, hc⟩ := List.exists_cons_of_ne_nil hvalue
  have hread := decodePlus_encodePlus v
  rw [hc] at hread
  rw [addItem, itemText, cutAt_run hkey, hc]
  dsimp only
  rw [decodePlus_encodePlus, hread]

theorem addValue_last (h : key ∉ q.map (·.1)) (vs : List String) (v : String) :
    addValue (q ++ [(key, vs)]) key v = q ++ [(key, vs ++ [v])] := by
  have hq : (q.map fun item => if item.1 = key then (key, item.2 ++ [v]) else item) = q := by
    refine (List.map_congr_left fun item hitem => ?_).trans (List.map_id q)
    exact if_neg fun hk => h (List.mem_map.mpr ⟨item, hitem, hk⟩)
  rw [addValue_old (by simp), List.map_append, hq]
  simp

/-- Values of one key are gathered under it. -/
theorem foldl_addValue_same (h : key ∉ q.map (·.1)) (us vs : List String) :
    vs.foldl (fun q v => addValue q key v) (q ++ [(key, us)]) = q ++ [(key, us ++ vs)] := by
  induction vs generalizing us with
  | nil => rw [List.foldl_nil, List.append_nil]
  | cons v vs ih =>
    rw [List.foldl_cons, addValue_last h, ih, List.append_assoc, List.singleton_append]

theorem foldl_addItem_values (h : key ∉ q.map (·.1)) (hne : vs ≠ []) (hv : ∀ v ∈ vs, v ≠ "") :
    (vs.map (itemText key)).foldl addItem q = q ++ [(key, vs)] := by
  have hadd :
      (vs.map (itemText key)).foldl addItem q = vs.foldl (fun q v => addValue q key v) q := by
    rw [List.foldl_map]
    exact List.foldl_ext _ _ _ fun q v hmem => addItem_itemText q key (hv v hmem)
  obtain ⟨v, vs, rfl⟩ := List.exists_cons_of_ne_nil hne
  rw [hadd, List.foldl_cons, addValue_new h, foldl_addValue_same h, List.singleton_append]

def itemTexts (q : Query) : List (List Char) := q.flatMap fun item => item.2.map (itemText item.1)

theorem foldl_addItem_itemTexts {p : Query} (h : ProperQuery (p ++ q)) :
    (itemTexts q).foldl addItem p = p ++ q := by
  induction q generalizing p with
  | nil => simp [itemTexts]
  | cons item q ih =>
    obtain ⟨key, vs⟩ := item
    have hmem : (key, vs) ∈ p ++ (key, vs) :: q := by simp
    have hkey : key ∉ p.map (·.1) := by
      have hnodup := h.nodup
      rw [List.map_append, List.map_cons] at hnodup
      exact fun hk => List.disjoint_of_nodup_append hnodup hk List.mem_cons_self
    rw [itemTexts, List.flatMap_cons, List.foldl_append, ← itemTexts,
      foldl_addItem_values hkey (h.given _ hmem) (h.nonempty _ hmem), ih (by simpa using h),
      List.append_assoc, List.singleton_append]

def sorted (q : Query) : Query := q.mergeSort fun a b => !(b.1 < a.1)

theorem perm_sorted (q : Query) : (sorted q).Perm q := List.mergeSort_perm q _

theorem sorted_eq_nil : sorted q = [] ↔ q = [] := by
  rw [← List.perm_nil, ← List.perm_nil]
  exact ⟨(perm_sorted q).symm.trans, (perm_sorted q).trans⟩

theorem ProperQuery.perm {p : Query} (h : ProperQuery q) (hp : p.Perm q) : ProperQuery p where
  nodup := (hp.map _).nodup_iff.mpr h.nodup
  given item hitem := h.given item (hp.mem_iff.mp hitem)
  nonempty item hitem := h.nonempty item (hp.mem_iff.mp hitem)

theorem ProperQuery.sorted (h : ProperQuery q) : ProperQuery (sorted q) := h.perm (perm_sorted q)

theorem not_mem_itemText {d : Char} (hu : Url.isUnreserved d = false) (hp : d ≠ '%')
    (hplus : d ≠ '+') (hblank : d ≠ ' ') (heq : d ≠ '=') (key v : String) :
    d ∉ itemText key v := by
  have hpart (cs : List Char) : d ∉ Url.encodePlus cs :=
    Url.not_mem_encodePlus hu hp hplus hblank cs
  simp [itemText, hpart, heq]

theorem queryText_eq (q : Query) : (queryText q).toList =
    if q = [] then [] else '?' :: ['&'].intercalate (itemTexts (sorted q)) := by
  cases q with
  | nil => rfl
  | cons item q =>
    rw [if_neg (List.cons_ne_nil item q)]
    simp [queryText, itemTexts, sorted, List.map_flatMap, Function.comp_def]
    rfl

theorem not_mem_itemTexts {d : Char} (hu : Url.isUnreserved d = false) (hp : d ≠ '%')
    (hplus : d ≠ '+') (hblank : d ≠ ' ') (heq : d ≠ '=') (hand : d ≠ '&') (q : Query) :
    d ∉ ['&'].intercalate (itemTexts q) := by
  intro h
  obtain rfl | ⟨part, hpart, h⟩ := mem_intercalate h
  · exact hand rfl
  · obtain ⟨item, -, hpart⟩ := List.mem_flatMap.mp hpart
    obtain ⟨v, -, rfl⟩ := List.mem_map.mp hpart
    exact not_mem_itemText hu hp hplus hblank heq item.1 v h

/-- Nothing but the signs of its form and what percent encoding leaves stands in a query. -/
theorem not_mem_queryText {d : Char} (hu : Url.isUnreserved d = false) (hp : d ≠ '%')
    (hplus : d ≠ '+') (hblank : d ≠ ' ') (heq : d ≠ '=') (hand : d ≠ '&') (hmark : d ≠ '?')
    (q : Query) : d ∉ (queryText q).toList := by
  rw [queryText_eq]
  split
  · exact List.not_mem_nil
  · have hitems := not_mem_itemTexts hu hp hplus hblank heq hand (sorted q)
    simp [hmark, hitems]

theorem readQuery_itemTexts (h : ProperQuery q) (hne : q ≠ []) :
    readQuery (['&'].intercalate (itemTexts q)) = q := by
  have hparts : ∀ part ∈ itemTexts q, '&' ∉ part := by
    intro part hpart
    obtain ⟨item, -, hpart⟩ := List.mem_flatMap.mp hpart
    obtain ⟨v, -, rfl⟩ := List.mem_map.mp hpart
    exact not_mem_itemText (by decide) (by decide) (by decide) (by decide) (by decide) _ _
  have hsome : itemTexts q ≠ [] := by
    obtain ⟨item, q, rfl⟩ := List.exists_cons_of_ne_nil hne
    have hvs : item.2 ≠ [] := h.given item List.mem_cons_self
    simp [itemTexts, hvs]
  rw [readQuery_eq, split_intercalate hsome hparts]
  exact foldl_addItem_itemTexts h

section Order

variable {p : Query}

theorem lookup_eq_of_perm (hp : p.Perm q) (h : (q.map (·.1)).Nodup) (key : String) :
    p.lookup key = q.lookup key := by
  induction hp with
  | nil => rfl
  | cons item hp ih =>
    rw [List.map_cons, List.nodup_cons] at h
    rw [List.lookup_cons, List.lookup_cons, ih h.2]
  | swap x y q =>
    obtain ⟨k, a⟩ := x
    obtain ⟨l, b⟩ := y
    have hne : k ≠ l := by
      rintro rfl
      simp at h
    by_cases hk : key = k
    · simp [List.lookup_cons, hk, beq_false_of_ne hne]
    · have hk : (key == k) = false := beq_false_of_ne hk
      simp [List.lookup_cons, hk]
  | trans hp hp' ih ih' =>
    exact (ih ((hp'.map _).nodup_iff.mpr h)).trans (ih' h)

/-- Queries in order are one if they have the same items. -/
theorem sorted_eq_of_perm (hp : p.Perm q) (h : (q.map (·.1)).Nodup) : sorted p = sorted q := by
  have hordered (q : Query) : (sorted q).Pairwise fun a b => !(b.1 < a.1) := by
    refine List.pairwise_mergeSort ?_ ?_ q
    · intro a b c hab hbc
      simp only [Bool.not_eq_true', decide_eq_false_iff_not, String.not_lt] at hab hbc ⊢
      exact String.le_trans hab hbc
    · intro a b
      simp only [Bool.or_eq_true, Bool.not_eq_true', decide_eq_false_iff_not, String.not_lt]
      exact String.le_total a.1 b.1
  refine List.Perm.eq_of_pairwise ?_ (hordered p) (hordered q)
    ((perm_sorted p).trans (hp.trans (perm_sorted q).symm))
  intro a b ha hb hab hba
  simp only [Bool.not_eq_true', decide_eq_false_iff_not, String.not_lt] at hab hba
  have ha : a ∈ q := hp.mem_iff.mp ((perm_sorted p).mem_iff.mp ha)
  have hb : b ∈ q := (perm_sorted q).mem_iff.mp hb
  exact List.inj_on_of_nodup_map h ha hb (String.le_antisymm hab hba)

end Order

section Settings

variable {u w : DatabaseUrl}

theorem lookup_filter {keeps : String → Bool} (h : keeps key = true) (q : Query) :
    (q.filter fun item => keeps item.1).lookup key = q.lookup key := by
  induction q with
  | nil => rfl
  | cons item q ih =>
    obtain ⟨k, vs⟩ := item
    rw [List.filter_cons]
    split
    · rw [List.lookup_cons, List.lookup_cons, ih]
    · rename_i hk
      have hne : (key == k) = false := by
        rw [beq_eq_false_iff_ne]
        rintro rfl
        exact hk h
      rw [ih, List.lookup_cons, hne]

theorem switch_congr (h : u.query.lookup key = w.query.lookup key) :
    u.switch key = w.switch key := by
  rw [switch, switch, h]

theorem switch_eq_of_perm (hp : u.query.Perm w.query) (h : ProperQuery w.query) (key : String) :
    u.switch key = w.switch key := switch_congr (lookup_eq_of_perm hp h.nodup key)

theorem uriText_eq_of_perm (hd : u.database = w.database) (hp : u.query.Perm w.query)
    (h : ProperQuery w.query) : u.uriText = w.uriText := by
  have hoptions : u.uriOptions = w.uriOptions := by
    refine sorted_eq_of_perm (hp.filter _) ?_
    exact h.nodup.sublist (List.filter_sublist.map _)
  rw [uriText, uriText, hd, hoptions]

end Settings

end MetricArchive.DatabaseUrl
