import MetricArchive.Exposition.Family
import MetricArchive.Exposition.Quoted

/-!
# Label sets

The braced list of a sample line, and the constant labels that are put in front of it. Spaces and
tabs may stand around every token of the list, and one comma may end it. A scraped label whose name
is taken is kept under its name with `exported_` in front, as often as it takes.
-/
namespace MetricArchive.Exposition

def isSpaceOrTab (c : Char) : Bool := c == ' ' || c == '\t'

def skipSpace (cs : List Char) : List Char := cs.dropWhile isSpaceOrTab

def isLetter (c : Char) : Bool := ('a' ≤ c && c ≤ 'z') || ('A' ≤ c && c ≤ 'Z')

def isAsciiDigit (c : Char) : Bool := '0' ≤ c && c ≤ '9'

def isLabelStart (c : Char) : Bool := isLetter c || c == '_'

def isLabelChar (c : Char) : Bool := isLabelStart c || isAsciiDigit c

def isMetricStart (c : Char) : Bool := isLabelStart c || c == ':'

def isMetricChar (c : Char) : Bool := isMetricStart c || isAsciiDigit c

/-- The longest name at the front, and what follows it. -/
def cutName (start part : Char → Bool) : List Char → Option (List Char × List Char)
  | [] => none
  | c :: rest =>
    if start c then some (c :: rest.takeWhile part, rest.dropWhile part) else none

def isName (start part : Char → Bool) (cs : List Char) : Bool :=
  match cutName start part cs with
  | some (_, []) => true
  | _ => false

theorem skipSpace_length (cs : List Char) : (skipSpace cs).length ≤ cs.length :=
  (List.dropWhile_sublist _).length_le

theorem cutName_length {start part : Char → Bool} {cs name rest : List Char}
    (h : cutName start part cs = some (name, rest)) : rest.length < cs.length := by
  cases cs with
  | nil => simp [cutName] at h
  | cons c tail =>
    simp only [cutName] at h
    split at h
    · simp only [Option.some.injEq, Prod.mk.injEq] at h
      rw [← h.2]
      have := (List.dropWhile_sublist part (l := tail)).length_le
      simp only [List.length_cons]
      omega
    · simp at h

/-- One `name="value"` item, and what follows it. -/
def readItem (cs : List Char) : Except LineRefusal ((List Char × List Char) × List Char) :=
  match cutName isLabelStart isLabelChar cs with
  | none => .error (.fault .invalidLabelName (cs.take 16))
  | some (name, rest) =>
    match skipSpace rest with
    | '=' :: rest =>
      match skipSpace rest with
      | '"' :: rest =>
        match readQuoted rest with
        | .ok (value, rest) => .ok ((name, value), rest)
        | .error e => .error e
      | _ => .error (.fault .unquotedValue name)
    | _ => .error (.fault .missingEquals name)

theorem readItem_length {cs rest : List Char} {item : List Char × List Char}
    (h : readItem cs = .ok (item, rest)) : rest.length < cs.length := by
  unfold readItem at h
  split at h
  · simp at h
  · rename_i name r₁ hname
    have h₁ := cutName_length hname
    have h₂ := skipSpace_length r₁
    split at h
    · rename_i r₂ hr₂
      have h₃ := skipSpace_length r₂
      split at h
      · rename_i r₃ hr₃
        split at h
        · rename_i value r₄ hq
          have h₄ := readQuoted_length hq
          simp only [Except.ok.injEq, Prod.mk.injEq] at h
          rw [← h.2]
          have e₂ : (skipSpace r₁).length = r₂.length + 1 := by rw [hr₂]; rfl
          have e₃ : (skipSpace r₂).length = r₃.length + 1 := by rw [hr₃]; rfl
          omega
        · simp at h
      · simp at h
    · simp at h

/-- The items up to the closing brace, added to those already read from the same line, and what
follows the brace. -/
def readLabels (line : List Char) (found : Labels) (cs : List Char) :
    Except LineRefusal (Labels × List Char) :=
  match _start : skipSpace cs with
  | [] => .error (.fault .unterminatedLabels line)
  | '}' :: rest => .ok (found, rest)
  | c :: more =>
    match _item : readItem (c :: more) with
    | .error e => .error e
    | .ok ((name, value), rest) =>
      let label := String.ofList name
      if found.any (·.1 == label) then .error (.fault .duplicateLabel name)
      else
        let found := found ++ [(label, String.ofList value)]
        match _separator : skipSpace rest with
        | ',' :: next => readLabels line found next
        | '}' :: next => .ok (found, next)
        | other => .error (.fault .missingSeparator (other.take 16))
termination_by cs.length
decreasing_by
  have h₁ := skipSpace_length cs
  have h₂ := readItem_length _item
  have h₃ := skipSpace_length rest
  simp only [_start, _separator, List.length_cons] at *
  omega

/-- A name not yet taken: the given one with `exported_` in front as often as needed. More often
than there are names to avoid is never needed. -/
def freshName (taken : List String) : Nat → String → String
  | 0, name => name
  | n + 1, name => if taken.contains name then freshName taken n ("exported_" ++ name) else name

/-- Constant labels followed by the scraped ones under names of their own. -/
def withConstants (constants scraped : Labels) : Labels :=
  scraped.foldl
    (fun merged (name, value) =>
      merged ++ [(freshName (merged.map (·.1)) merged.length name, value)])
    constants

theorem withConstants_nil (constants : Labels) : withConstants constants [] = constants := rfl

end MetricArchive.Exposition
