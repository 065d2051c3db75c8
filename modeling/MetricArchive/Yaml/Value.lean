import MetricArchive.Yaml.Literal
import MetricArchive.Yaml.Merge

/-!
# Values of nodes

A scalar has its value at once. A collection is there at once too, but its parts are looked at only
when all nodes seen before it are done, so the fault of a text with several is the first one in that
order. Every node has one value, however often it is part of others.
-/
namespace MetricArchive.Yaml

/-- What a node has become: a value, or a collection of nodes. -/
inductive Built where
  | value (v : ConfigValue)
  | list (items : List Nat)
  | mapping (entries : List (ConfigValue × Nat))
  | pairs (entries : List (Nat × Nat))
  | set (members : List ConfigValue)
  deriving Repr

/-- A document part of which has been built, and the collections whose parts are still to do. -/
structure Building where
  document : Document
  built : Array (Option Built)
  waiting : List Nat

namespace Building

def start (d : Document) : Building := ⟨d, Array.replicate d.nodes.size none, []⟩

def builtAt (b : Building) (id : Nat) : Option Built := b.built[id]?.join

def put (b : Building) (id : Nat) (x : Built) : Building :=
  { b with built := b.built.modify id fun _ => some x }

/-- The text of a scalar, or of the default value of a mapping. -/
def textOf (d : Document) : Nat → (id : Nat) → Except Fault String
  | 0, _ => .error .malformed
  | n + 1, id =>
    match d.contentOf id with
    | .scalar s => .ok s
    | .sequence _ => .error .malformed
    | .mapping entries =>
      match entries.find? fun e => d.tagOf e.1 == .default with
      | some (_, value) => textOf d n value
      | none => .error .malformed

def isScalar : Content → Bool
  | .scalar _ => true
  | _ => false

def scalarValue (d : Document) (id : Nat) : Except Fault ConfigValue := do
  let tag := d.tagOf id
  let s ← textOf d (d.nodes.size + 1) id
  if tag == .moment && !isScalar (d.contentOf id) then throw .momentMapping
  literal tag s

/-- Builds a node unless that has been done. -/
def visit (b : Building) (id : Nat) : Except Fault Building :=
  let later := fun (x : Built) => .ok { b.put id x with waiting := b.waiting ++ [id] }
  if (b.builtAt id).isSome then .ok b
  else
    match b.document.tagOf id with
    | .sequence => later (.list [])
    | .mapping => later (.mapping [])
    | .pairs => later (.pairs [])
    | .set => later (.set [])
    | .merge | .default | .unknown => .error .malformed
    | _ => (scalarValue b.document id).map fun v => b.put id (.value v)

/-- The value of a node that can be a key; collections cannot. -/
def keyAt (b : Building) (id : Nat) : Except Fault ConfigValue :=
  match b.builtAt id with
  | some (.value v) => .ok v
  | _ => .error .malformed

/-- Builds the entries of a mapping; the last value of a key stands. -/
def visitEntries (b : Building) : List (Nat × Nat) → (entries : List (ConfigValue × Nat)) →
    Except Fault (List (ConfigValue × Nat) × Building)
  | [], entries => .ok (entries, b)
  | (key, value) :: rest, entries => do
    let b ← b.visit key
    let k ← b.keyAt key
    let b ← b.visit value
    visitEntries b rest (ConfigValue.assign entries k value)

/-- Builds mappings of a single entry each. -/
def visitPairs (b : Building) : List Nat → Except Fault (List (Nat × Nat) × Building)
  | [] => .ok ([], b)
  | id :: rest =>
    match b.document.contentOf id with
    | .mapping [(key, value)] => do
      let b ← b.visit key
      let b ← b.visit value
      let (pairs, b) ← visitPairs b rest
      return ((key, value) :: pairs, b)
    | _ => .error .malformed

def visitMapping (b : Building) (id : Nat) :
    Except Fault (List (ConfigValue × Nat) × Building) := do
  let d ← b.document.flatten id
  { b with document := d }.visitEntries (d.entriesOf id) []

def expand (b : Building) (id : Nat) : Except Fault Building := do
  match b.document.tagOf id, b.document.contentOf id with
  | .sequence, .sequence items =>
    let b ← items.foldlM visit b
    return b.put id (.list items)
  | .pairs, .sequence items =>
    let (pairs, b) ← b.visitPairs items
    return b.put id (.pairs pairs)
  | .mapping, .mapping _ =>
    let (entries, b) ← b.visitMapping id
    return b.put id (.mapping entries)
  | .set, .mapping _ =>
    let (entries, b) ← b.visitMapping id
    return b.put id (.set (entries.map (·.1)))
  | _, _ => throw .malformed

/-- Builds what is waiting, the first first; no node waits twice. -/
def finish : Nat → Building → Except Fault Building
  | 0, b => .ok b
  | n + 1, b =>
    match b.waiting with
    | [] => .ok b
    | id :: rest => do finish n (← { b with waiting := rest }.expand id)

end Building

/-- What the nodes of a document have become, and which is the outermost. -/
structure Values where
  built : Array (Option Built)
  root : Nat
  deriving Repr

namespace Values

def ofDocument (d : Document) : Except Fault Values := do
  let b ← (Building.start d).visit d.root
  let b ← b.finish (d.nodes.size + 1)
  return ⟨b.built, d.root⟩

/-- The node that a mapping holds under a name. -/
def entry? (vs : Values) (id : Nat) (name : String) : Option Nat :=
  match vs.built[id]?.join with
  | some (.mapping entries) => (entries.find? fun (k, _) => k == .text name).map (·.2)
  | _ => none

def isMapping (vs : Values) (id : Nat) : Bool :=
  match vs.built[id]?.join with
  | some (.mapping _) => true
  | _ => false

/-- The values known so far, by node. -/
abbrev Known := Array (Option ConfigValue)

/-- The value of a node inside others. A collection inside itself is not opened again, and one that
is met again elsewhere has the value that it had. -/
def unfold (vs : Values) : Nat → (outer : List Nat) → (id : Nat) → StateM Known ConfigValue
  | 0, _, _ => pure .null
  | n + 1, outer, id => do
    if let some v := (← get)[id]?.join then return v
    let inner := unfold vs n (id :: outer)
    let entry := fun (k, id) => do return (k, ← inner id)
    let keep := fun v => do
      modify fun known => known.modify id fun _ => some v
      return v
    match vs.built[id]?.join with
    | none => return .null
    | some (.value v) => return v
    | some (.set members) => return .set (ConfigValue.orderMembers members)
    | some (.list items) =>
      if outer.contains id then return .enclosing false
      keep (.list (← items.mapM inner))
    | some (.mapping entries) =>
      if outer.contains id then return .enclosing true
      keep (.mapping (← entries.mapM entry))
    | some (.pairs entries) =>
      if outer.contains id then return .enclosing false
      keep (.list (← entries.mapM fun (k, v) => do return .pair (← inner k) (← inner v)))

def value (vs : Values) (id : Nat) : ConfigValue :=
  ((vs.unfold (vs.built.size + 1) [] id).run (Array.replicate vs.built.size none)).1

end Values

/-- The values of a text's only document, if it has one. -/
def read (text : List Char) : Except Fault (Option Values) := do
  match ← require (Document.ofTokens (← tokens text)) with
  | none => return none
  | some d => (Values.ofDocument d).map some

end MetricArchive.Yaml
