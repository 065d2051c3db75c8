import MetricArchive.Number.Binary64
import MetricArchive.Time.Moment

/-!
# Values of a configuration

What a configuration may say before it is known which setting it is for. A mapping keeps the order
in which its keys came first, and the last value of a key stands. Keys that count as the same number
are one key: a yes is one, and a no is zero.
-/
namespace MetricArchive

inductive ConfigValue where
  | null
  | flag (b : Bool)
  | whole (n : Int)
  | number (x : Binary64)
  | text (s : String)
  | bytes (bs : List UInt8)
  | date (d : Date)
  | moment (m : Moment)
  | list (items : List ConfigValue)
  | mapping (entries : List (ConfigValue × ConfigValue))
  /-- A key and a value that stand alone as an item. -/
  | pair (key value : ConfigValue)
  | set (members : List ConfigValue)
  /-- A list, or a mapping, that this value is inside of. -/
  | enclosing (isMapping : Bool)
  deriving BEq, Repr, Inhabited

namespace ConfigValue

/-- The exact value of a number that is finite; a flag counts as one or zero. -/
def quantity? : ConfigValue → Option Rat
  | .flag b => some (if b then 1 else 0)
  | .whole n => some n
  | .number x => x.toRat?
  | _ => none

/-- Whether two keys are one: numbers by their value, moments by the instant if both have one. -/
def isSameKey (a b : ConfigValue) : Bool :=
  match a.quantity?, b.quantity?, a, b with
  | some x, some y, _, _ => x == y
  | _, _, .moment m, .moment n =>
    m.offset.isSome == n.offset.isSome && m.micros == n.micros
  | _, _, a, b => a == b

/-- Gives a key a value; a key that is there already keeps its form. -/
def assign {α : Type} (entries : List (ConfigValue × α)) (key : ConfigValue) (value : α) :
    List (ConfigValue × α) :=
  if entries.any (·.1.isSameKey key) then
    entries.map fun e => if e.1.isSameKey key then (e.1, value) else e
  else entries ++ [(key, value)]

/-- The number of places among which the members of a set are spread. -/
def setPlaces (count : Nat) : Nat :=
  if count < 5 then 8 else 2 * Binary64.twoTo (Nat.log2 (2 * count))

/-- The members of a set in the order in which they are listed: whole numbers by their remainder
modulo the number of places, and others as they came. -/
def orderMembers (members : List ConfigValue) : List ConfigValue :=
  let place := fun (v : ConfigValue) => match v with
    | .whole n => some (n % (setPlaces members.length : Int))
    | _ => none
  if members.all fun v => (place v).isSome then
    members.mergeSort fun a b => (place a).getD 0 ≤ (place b).getD 0
  else members

def isKey : ConfigValue → Bool
  | .list _ | .mapping _ | .set _ | .enclosing _ => false
  | _ => true

/-- Nothing, no, zero and what is empty. -/
def isVoid : ConfigValue → Bool
  | .null => true
  | .flag b => !b
  | .whole n => n == 0
  | .number (.finite _ m _) => m == 0
  | .text s => s.isEmpty
  | .bytes bs => bs.isEmpty
  | .list items => items.isEmpty
  | .mapping entries => entries.isEmpty
  | .set members => members.isEmpty
  | _ => false

def kindName : ConfigValue → String
  | .null => "NoneType"
  | .flag _ => "bool"
  | .whole _ => "int"
  | .number _ => "float"
  | .text _ => "str"
  | .bytes _ => "bytes"
  | .date _ => "datetime.date"
  | .moment _ => "datetime.datetime"
  | .list _ => "list"
  | .mapping _ => "dict"
  | .pair .. => "tuple"
  | .set _ => "set"
  | .enclosing isMapping => if isMapping then "dict" else "list"

end ConfigValue

end MetricArchive
