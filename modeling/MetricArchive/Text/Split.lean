/-!
# Cutting a text at a character

`split` gives the parts between the separators, so there is one part more than separators.
-/
namespace MetricArchive.Text

def split (separator : Char) : List Char → List (List Char)
  | [] => [[]]
  | c :: rest =>
    if c == separator then [] :: split separator rest
    else
      match split separator rest with
      | [] => [[c]]
      | part :: parts => (c :: part) :: parts

/-- What stands before the first occurrence of a character and what after it, if there is one. -/
def cutAt (separator : Char) (cs : List Char) : List Char × Option (List Char) :=
  (cs.takeWhile (· != separator),
    match cs.dropWhile (· != separator) with
    | [] => none
    | _ :: rest => some rest)

/-- What stands before the last occurrence of a character and what after it. -/
def cutAtLast? (separator : Char) (cs : List Char) : Option (List Char × List Char) :=
  match cutAt separator cs.reverse with
  | (_, none) => none
  | (after, some before) => some (before.reverse, after.reverse)

/-- What stands before the first occurrence of a phrase and what after it. -/
def cutAtPhrase? (phrase : List Char) : List Char → Option (List Char × List Char)
  | [] => if phrase.isEmpty then some ([], []) else none
  | c :: rest =>
    if phrase.isPrefixOf (c :: rest) then some ([], (c :: rest).drop phrase.length)
    else (cutAtPhrase? phrase rest).map fun (before, after) => (c :: before, after)

theorem split_ne_nil (separator : Char) (cs : List Char) : split separator cs ≠ [] := by
  cases cs with
  | nil => simp [split]
  | cons c rest =>
    simp only [split]
    split
    · simp
    · split <;> simp

/-- Putting the separators back gives the text. -/
theorem intercalate_split (separator : Char) (cs : List Char) :
    [separator].intercalate (split separator cs) = cs := by
  induction cs with
  | nil => rfl
  | cons c rest ih =>
    have hne := split_ne_nil separator rest
    rcases hs : split separator rest with _ | ⟨part, parts⟩
    · exact absurd hs hne
    · rw [hs] at ih
      simp only [split, hs]
      split
      · rename_i h
        simp_all [List.intercalate, List.intersperse]
      · cases parts <;> simp_all [List.intercalate, List.intersperse]

end MetricArchive.Text
