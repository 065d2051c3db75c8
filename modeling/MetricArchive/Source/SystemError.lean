import MetricArchive.Config.Shown

/-!
# Errors of the operating system

An error has a number and a text, and may concern a file or two; or it is just a text. It is made
from values of any kind, of which two to five say these things in this order, the fourth nothing.
-/
namespace MetricArchive

inductive SystemError where
  | numbered (number text : String) (file second : Option String)
  | plain (text : String)
  deriving DecidableEq, Repr

namespace SystemError

def message : SystemError → String
  | .numbered number text file second =>
    s!"[Errno {number}] {text}" ++ match file, second with
      | none, _ => ""
      | some file, none => s!": {file}"
      | some file, some second => s!": {file} -> {second}"
  | .plain text => text

/-- The numbers of the errors that mean that an operation would have to wait; what would be a file
is then a count if it is a number. -/
def waitingNumbers : List Int := [11, 114, 115]

def isWaiting : ConfigValue → Bool
  | .whole n => waitingNumbers.contains n
  | _ => false

/-- A file by name; nothing stands for no file. -/
def fileName? : Option ConfigValue → Option String
  | none | some .null => none
  | some v => some v.shown

def ofValues (values : List ConfigValue) : SystemError :=
  match values with
  | [] => .plain ""
  | [v] => .plain v.display
  | number :: text :: rest =>
    if 3 < rest.length then
      .plain ("(" ++ ConfigValue.separated (ConfigValue.shownAll values) ++ ")")
    else
      let counted := isWaiting number && rest.head?.any fun v => v.quantity?.isSome
      let file := if counted then none else fileName? rest.head?
      .numbered number.display text.display file (fileName? rest[2]?)

end SystemError

end MetricArchive
