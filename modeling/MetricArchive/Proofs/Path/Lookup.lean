import Mathlib.Logic.Relation
import MetricArchive.Path.Workspace
import MetricArchive.Proofs.Path.Normal

/-!
# Looking a path up

Main statement: looking a path up is refused exactly if the path is too long, or if the walk along
it comes to a name that is too long, to a name in a closed folder, or to a closed link.
-/
namespace MetricArchive

open Relation

def Place.isRefusal : Place → Bool
  | .overlong | .closed => true
  | _ => false

/-- How far a path has been followed: the links that may still be followed, the folder that has been
reached and the names that are left. -/
structure Walk where
  links : ℕ
  folder : List String
  names : List String

namespace Walk

variable {α : Type} (w : Workspace α) (m : Machine α)

def Allowed (folder : List String) (name : String) : Prop :=
  folder ∉ m.closed ∧ name.utf8ByteSize ≤ Workspace.nameLimit

/-- One name is followed, to a folder or behind a link. -/
inductive Step : Walk → Walk → Prop where
  | folder {links : ℕ} {folder rest : List String} {name : String}
    (hallowed : Allowed m folder name) (hlink : m.links.lookup (Path.move folder name) = none)
    (hfolder : w.isFolder m (Path.move folder name) = true) (hrest : rest ≠ []) :
    Step ⟨links, folder, name :: rest⟩ ⟨links, Path.move folder name, rest⟩
  | link {links : ℕ} {folder rest : List String} {name : String} {p : Path}
    (hallowed : Allowed m folder name) (hlink : m.links.lookup (Path.move folder name) = some p)
    (hopen : Path.move folder name ∉ m.closed) :
    Step ⟨links + 1, folder, name :: rest⟩ ⟨links, p.origin folder, p.steps ++ rest⟩

/-- The next name is not allowed, or it is the one of a closed link that could still be followed. -/
inductive Refused : Walk → Prop where
  | name {links : ℕ} {folder rest : List String} {name : String} (h : ¬ Allowed m folder name) :
    Refused ⟨links, folder, name :: rest⟩
  | link {links : ℕ} {folder rest : List String} {name : String} {p : Path}
    (hallowed : Allowed m folder name) (hlink : m.links.lookup (Path.move folder name) = some p)
    (hclosed : Path.move folder name ∈ m.closed) : Refused ⟨links + 1, folder, name :: rest⟩

def ends (v : Walk) : Place := w.follow m v.links v.folder v.names

/-- What comes behind a link if so many may still be followed, that one included. -/
def behind : ℕ → (link folder names : List String) → Place
  | 0, _, _, _ => .looping
  | links + 1, link, folder, names =>
    if m.closed.contains link then .closed else ends w m ⟨links, folder, names⟩

variable {w m} {u v : Walk} {links : ℕ} {folder rest : List String} {name : String}

theorem ends_eq (links : ℕ) (folder names : List String) :
    ends w m ⟨links, folder, names⟩ = w.followFrom m (behind w m links) folder names := by
  cases links <;> rfl

theorem ends_of_not_allowed (h : ¬ Allowed m folder name) :
    (ends w m ⟨links, folder, name :: rest⟩).isRefusal = true := by
  rw [ends_eq, Workspace.followFrom]
  by_cases hopen : folder ∈ m.closed
  · rw [if_pos (by simpa using hopen)]
    rfl
  · have hlong : Workspace.nameLimit < name.utf8ByteSize := by
      simpa [Allowed, hopen] using h
    rw [if_neg (by simpa using hopen), if_pos hlong]
    rfl

theorem ends_of_link {p : Path} (h : Allowed m folder name)
    (hlink : m.links.lookup (Path.move folder name) = some p) :
    ends w m ⟨links, folder, name :: rest⟩ =
      behind w m links (Path.move folder name) (p.origin folder) (p.steps ++ rest) := by
  rw [ends_eq, Workspace.followFrom, if_neg (by simpa using h.1), if_neg (Nat.not_lt.mpr h.2)]
  simp only [hlink]

theorem ends_of_place (h : Allowed m folder name)
    (hlink : m.links.lookup (Path.move folder name) = none) :
    ends w m ⟨links, folder, name :: rest⟩ =
      if rest.isEmpty then .reached (Path.move folder name)
      else if w.isFolder m (Path.move folder name) then
        ends w m ⟨links, Path.move folder name, rest⟩
      else .blocked (Path.move folder name) := by
  rw [ends_eq, Workspace.followFrom, if_neg (by simpa using h.1), if_neg (Nat.not_lt.mpr h.2),
    ends_eq]
  simp only [hlink]

theorem Step.ends_eq (h : Step w m u v) : ends w m u = ends w m v := by
  cases h with
  | folder hallowed hlink hfolder hrest =>
    rw [ends_of_place hallowed hlink, if_neg (by simpa using hrest), if_pos hfolder]
  | link hallowed hlink hopen =>
    rw [ends_of_link hallowed hlink, behind, if_neg (by simpa using hopen)]

theorem Refused.isRefusal_ends (h : Refused m v) : (ends w m v).isRefusal = true := by
  cases h with
  | name h => exact ends_of_not_allowed h
  | link hallowed hlink hclosed =>
    rw [ends_of_link hallowed hlink, behind, if_pos (by simpa using hclosed)]
    rfl

theorem Step.lt (h : Step w m u v) :
    Prod.Lex (· < ·) (· < ·) (v.links, v.names.length) (u.links, u.names.length) := by
  cases h with
  | folder => exact .right _ (Nat.lt_succ_self _)
  | link => exact .left _ _ (Nat.lt_succ_self _)

/-- What is going to be refused is refused now or goes on, behind a link or into a folder. -/
theorem refused_or_step (h : (ends w m u).isRefusal = true) :
    Refused m u ∨ ∃ v, Step w m u v ∧ (ends w m v).isRefusal = true := by
  obtain ⟨links, folder, _ | ⟨name, rest⟩⟩ := u
  · rw [ends_eq] at h
    cases h
  by_cases hallowed : Allowed m folder name
  · cases hlink : m.links.lookup (Path.move folder name) with
    | none =>
      by_cases hgo : rest ≠ [] ∧ w.isFolder m (Path.move folder name) = true
      · have hstep : Step w m ⟨links, folder, name :: rest⟩ _ :=
          .folder hallowed hlink hgo.2 hgo.1
        exact .inr ⟨_, hstep, hstep.ends_eq ▸ h⟩
      · rw [ends_of_place hallowed hlink] at h
        split_ifs at h with hrest hfolder
        · cases h
        · exact absurd ⟨by simpa using hrest, hfolder⟩ hgo
        · cases h
    | some p =>
      cases links with
      | zero =>
        rw [ends_of_link hallowed hlink] at h
        cases h
      | succ links =>
        by_cases hopen : Path.move folder name ∈ m.closed
        · exact .inl (.link hallowed hlink hopen)
        · have hstep : Step w m ⟨links + 1, folder, name :: rest⟩ _ := .link hallowed hlink hopen
          exact .inr ⟨_, hstep, hstep.ends_eq ▸ h⟩
  · exact .inl (.name hallowed)

/-- Every step spends a link or a name, so a walk that is going to be refused comes to it. -/
theorem exists_refused (u : Walk) (h : (ends w m u).isRefusal = true) :
    ∃ v, ReflTransGen (Step w m) u v ∧ Refused m v := by
  obtain hrefused | ⟨v, hstep, hv⟩ := refused_or_step h
  · exact ⟨u, .refl, hrefused⟩
  · obtain ⟨x, hsteps, hrefused⟩ := exists_refused v hv
    exact ⟨x, .head hstep hsteps, hrefused⟩
termination_by (u.links, u.names.length)
decreasing_by exact hstep.lt

/-- A walk is refused exactly if it comes to something that is. -/
theorem isRefusal_ends_iff : (ends w m u).isRefusal = true ↔
    ∃ v, ReflTransGen (Step w m) u v ∧ Refused m v := by
  refine ⟨exists_refused u, ?_⟩
  rintro ⟨v, hsteps, hrefused⟩
  induction hsteps using ReflTransGen.head_induction_on with
  | refl => exact hrefused.isRefusal_ends
  | head hstep _ ih => rw [hstep.ends_eq, ih]

end Walk

namespace Workspace

variable {α : Type} {w : Workspace α} {m : Machine α}

/-- The system says neither what a path leads to nor that it leads nowhere. -/
inductive Refuses (w : Workspace α) (m : Machine α) (p : Path) : Prop where
  | path (hplain : '\x00' ∉ p.text.toList) (hlong : pathLimit < p.text.utf8ByteSize)
  | walk {v : Walk} (hplain : '\x00' ∉ p.text.toList)
    (hsteps : ReflTransGen (Walk.Step w m) ⟨linkLimit, p.origin m.here, p.steps⟩ v)
    (h : v.Refused m)

theorem isRefusal_locate_iff {p : Path} : (w.locate p m).isRefusal = true ↔ Refuses w m p := by
  unfold locate
  by_cases hplain : '\x00' ∈ p.text.toList
  · rw [if_pos (by simpa using hplain)]
    refine iff_of_false nofun ?_
    rintro (⟨h, -⟩ | ⟨h, -, -⟩) <;> exact h hplain
  rw [if_neg (by simpa using hplain)]
  by_cases hlong : pathLimit < p.text.utf8ByteSize
  · rw [if_pos hlong]
    exact iff_of_true rfl (.path hplain hlong)
  rw [if_neg hlong]
  have hwalk := @Walk.isRefusal_ends_iff α w m ⟨linkLimit, p.origin m.here, p.steps⟩
  refine hwalk.trans ⟨fun ⟨v, hsteps, h⟩ => .walk hplain hsteps h, ?_⟩
  rintro (⟨-, h⟩ | ⟨-, hsteps, h⟩)
  · exact absurd h hlong
  · exact ⟨_, hsteps, h⟩

/-- A name that is too long is refused right below the root, whatever stands there. -/
theorem refuses_below_root {name : String} (hslashless : '/' ∉ name.toList)
    (hplain : '\x00' ∉ name.toList) (hlong : nameLimit < name.utf8ByteSize) :
    Refuses w m (Path.ofText ("/" ++ name)) := by
  have hproper : Path.ProperName name := by
    refine ⟨?_, ?_, hslashless⟩ <;> rintro rfl <;> exact absurd hlong (by decide)
  have hnormal : Path.Normal ⟨"/", [name]⟩ := ⟨.inr (.inl rfl), by simpa using hproper⟩
  have htext : (⟨"/", [name]⟩ : Path).text = "/" ++ name := rfl
  rw [← htext, Path.ofText_text hnormal]
  exact .walk (by rw [htext]; simpa using hplain) .refl (.name fun h => Nat.not_lt.mpr h.2 hlong)

end Workspace

end MetricArchive
