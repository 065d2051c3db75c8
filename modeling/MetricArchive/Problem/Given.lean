import MetricArchive.Config.Shown
import MetricArchive.Problem

/-!
# Problems from given values

A kind of problem is made from values in an order of its own, some of which may be left out, and any
of which may be given by name instead. Values are not checked: whatever is given goes into the
message and into what the problem concerns.
-/
namespace MetricArchive

namespace ProblemKind

def name : ProblemKind → String
  | .general => "PromStashError"
  | .configuration => "ConfigurationError"
  | .parsing => "ParseError"
  | .fetching => "FetchError"
  | .storage => "StorageError"
  | .bufferClosed => "BufferClosedError"

/-- The kinds without values of their own are made as the general kind is. -/
def maker : ProblemKind → ProblemKind
  | .configuration => .general
  | .storage => .general
  | kind => kind

/-- The names of the values in order. -/
def parameters (kind : ProblemKind) : List String :=
  match kind.maker with
  | .parsing => ["message", "line_number", "token"]
  | .fetching => ["url", "reason", "status_code"]
  | .bufferClosed => []
  | _ => ["message"]

/-- How many of the values have to be given. -/
def required (kind : ProblemKind) : Nat := min 2 kind.parameters.length

/-- Whether any further value may be given by name. -/
def takesOthers (kind : ProblemKind) : Bool := kind.maker == .general

end ProblemKind

inductive GivenFault where
  | unexpected (name : String)
  | repeated (name : String)
  | excess (count : Nat)
  | missing (names : List String)
  deriving DecidableEq, Repr

def quotedNames (names : List String) : String :=
  " and ".intercalate (names.map fun n => s!"'{n}'")

def plural (count : Nat) : String := if count = 1 then "" else "s"

/-- A problem itself counts among the values that are given by position. -/
def GivenFault.message (kind : ProblemKind) (f : GivenFault) : String :=
  let most := kind.parameters.length + 1
  let least := kind.required + 1
  let range := if least = most then s!"{most} positional argument{plural most}"
    else s!"from {least} to {most} positional arguments"
  s!"{kind.maker.name}.__init__() " ++ match f with
    | .unexpected name => s!"got an unexpected keyword argument '{name}'"
    | .repeated name => s!"got multiple values for argument '{name}'"
    | .excess count => s!"takes {range} but {count + 1} were given"
    | .missing names =>
      s!"missing {names.length} required positional argument{plural names.length}: " ++
        quotedNames names

structure GivenProblem where
  kind : ProblemKind
  message : ConfigValue
  context : List (String × ConfigValue)
  deriving Repr

namespace GivenProblem

/-- Puts the named values among those given by position. -/
def place (kind : ProblemKind) (placed : List (String × ConfigValue)) :
    (named : List (String × ConfigValue)) →
      Except GivenFault (List (String × ConfigValue) × List (String × ConfigValue))
  | [] => .ok (placed, [])
  | (name, v) :: rest =>
    if name == "self" || placed.any (·.1 == name) then .error (.repeated name)
    else if kind.parameters.contains name then place kind (placed ++ [(name, v)]) rest
    else if kind.takesOthers then
      (place kind placed rest).map fun (placed, others) => (placed, (name, v) :: others)
    else .error (.unexpected name)

/-- The message and the concerns of a problem; a token is shown unless it is void. -/
def ofPlaced (kind : ProblemKind) (placed others : List (String × ConfigValue)) : GivenProblem :=
  let get := fun (name : String) (otherwise : ConfigValue) => (placed.lookup name).getD otherwise
  match kind.maker with
  | .parsing =>
    let line := get "line_number" .null
    let token := get "token" (.text "")
    let near := if token.isVoid then "" else s!" (near {token.shown})"
    let reason := get "message" .null
    ⟨kind, .text (s!"line {line.display}: {reason.display}" ++ near),
      [("line_number", line), ("token", token)]⟩
  | .fetching =>
    let url := get "url" .null
    let reason := get "reason" .null
    ⟨kind, .text s!"Fetch of {url.display} failed: {reason.display}",
      [("url", url), ("reason", reason), ("status_code", get "status_code" .null)]⟩
  | .bufferClosed => ⟨kind, .text Problem.bufferClosed.message, []⟩
  | _ => ⟨kind, get "message" .null, others⟩

def make (kind : ProblemKind) (values : List ConfigValue) (named : List (String × ConfigValue)) :
    Except GivenFault GivenProblem := do
  let (placed, others) ← place kind (kind.parameters.zip values) named
  if kind.parameters.length < values.length then throw (.excess values.length)
  let missing := (kind.parameters.take kind.required).filter fun n => !placed.any (·.1 == n)
  if missing.isEmpty then return ofPlaced kind placed others else throw (.missing missing)

end GivenProblem

end MetricArchive
