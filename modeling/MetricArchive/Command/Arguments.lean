/-!
# Arguments

Options have names of two hyphens and a word, or of a hyphen and one letter. A value follows as the
next argument, or after an equals sign at a long name, or right after the letter. Letters can share
a hyphen, and two hyphens alone end the options. Operands may be mixed with options, or else the
first one ends them.
-/
namespace MetricArchive

/-- An option as it can be written. -/
structure OptionForm where
  /-- What stands for the option in the result. -/
  key : String
  longNames : List String
  letters : List Char
  takesValue : Bool
  deriving Repr

/-- Options by key, each with its value if it takes one, and operands. -/
structure Arguments where
  options : List (String × String)
  operands : List String
  deriving DecidableEq, Repr

/-- What one argument says: options that are complete, and the key of one whose value follows. -/
structure OptionWord where
  settled : List (String × String)
  awaiting : Option String
  deriving DecidableEq, Repr

namespace OptionWord

/-- Letters after a hyphen. -/
def ofLetters? (forms : List OptionForm) : List Char → Option OptionWord
  | [] => some ⟨[], none⟩
  | c :: rest =>
    match forms.find? (·.letters.contains c) with
    | none => none
    | some form =>
      if form.takesValue then
        some (if rest.isEmpty then ⟨[], some form.key⟩
          else ⟨[(form.key, String.ofList rest)], none⟩)
      else (ofLetters? forms rest).map fun w => { w with settled := (form.key, "") :: w.settled }

/-- A whole argument that begins with a hyphen and goes on. -/
def ofText? (forms : List OptionForm) (s : String) : Option OptionWord :=
  let name := String.ofList (s.toList.takeWhile (· != '='))
  let value := if s.contains '=' then some (String.ofList ((s.toList.dropWhile (· != '=')).drop 1))
    else none
  match forms.find? (·.longNames.contains name), value with
  | some form, none => some (if form.takesValue then ⟨[], some form.key⟩ else ⟨[(form.key, "")], none⟩)
  | some form, some value => if form.takesValue then some ⟨[(form.key, value)], none⟩ else none
  | none, _ => if s.startsWith "--" then none else ofLetters? forms (s.toList.drop 1)

end OptionWord

namespace Arguments

def addOptions (settled : List (String × String)) (a : Arguments) : Arguments :=
  { a with options := settled ++ a.options }

/-- Reads arguments; fails at an unknown option and where a value is missing or out of place. -/
def read (forms : List OptionForm) (mixed : Bool) : List String → Option Arguments
  | [] => some ⟨[], []⟩
  | word :: rest =>
    if word == "--" then some ⟨[], rest⟩
    else if word.startsWith "-" && word != "-" then
      match OptionWord.ofText? forms word with
      | none => none
      | some ⟨settled, none⟩ => (read forms mixed rest).map (addOptions settled)
      | some ⟨settled, some key⟩ =>
        match rest with
        | [] => none
        | value :: rest =>
          (read forms mixed rest).map (addOptions (settled ++ [(key, value)]))
    else if mixed then
      (read forms mixed rest).map fun a => { a with operands := word :: a.operands }
    else some ⟨[], word :: rest⟩

/-- The value of an option; the last one given counts. -/
def value? (a : Arguments) (key : String) : Option String := a.options.reverse.lookup key

def has (a : Arguments) (key : String) : Bool := (a.value? key).isSome

end Arguments

end MetricArchive
