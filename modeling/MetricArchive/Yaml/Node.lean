import MetricArchive.Yaml.Tag
import MetricArchive.Yaml.Token

/-!
# Nodes

Tokens make scalars, sequences and mappings. Nodes are numbered in the order in which they begin,
and a collection holds the numbers of its parts, since by an alias a node may be part of several
others and even of itself. One document has one outermost node, and a second document is an error.
The numbers that bound the recursion come from the number of tokens.
-/
namespace MetricArchive.Yaml

inductive Content where
  | scalar (text : String)
  | sequence (items : List Nat)
  | mapping (entries : List (Nat × Nat))
  deriving Repr

structure Node where
  tag : Tag
  content : Content
  deriving Repr

/-- The nodes of a document by number, and which of them is the outermost. -/
structure Document where
  nodes : Array Node
  root : Nat
  deriving Repr

namespace Document

/-- What is known while nodes are read. -/
structure Reader where
  tokens : List Token
  anchors : List (String × Nat)
  /-- Tag handles with what they stand for. -/
  handles : List (String × String)
  nodes : Array Node

def defaultHandles : List (String × String) := [("!", "!"), ("!!", Tag.core)]

namespace Reader

def next (r : Reader) : Option Token := r.tokens.head?

def skip (r : Reader) : Reader := { r with tokens := r.tokens.drop 1 }

def isNextAmong (r : Reader) (l : List Token) : Bool := r.next.any l.contains

def expect (r : Reader) (t : Token) : Option Reader := if r.next == some t then some r.skip else none

/-- The full tag for a handle and a suffix; the handle has to be known. -/
def resolveTag (r : Reader) (handle : Option String) (suffix : String) : Option String :=
  match handle with
  | none => some suffix
  | some h => (r.handles.lookup h).map (· ++ suffix)

/-- An anchor and a tag in either order. -/
def properties (r : Reader) : Option ((Option String × Option String) × Reader) :=
  match r.tokens with
  | .anchor a :: .tag h s :: _ => (r.resolveTag h s).map fun t => ((some a, some t), r.skip.skip)
  | .tag h s :: .anchor a :: _ => (r.resolveTag h s).map fun t => ((some a, some t), r.skip.skip)
  | .anchor a :: _ => some ((some a, none), r.skip)
  | .tag h s :: _ => (r.resolveTag h s).map fun t => ((none, some t), r.skip)
  | _ => some ((none, none), r)

/-- A node that begins here; its anchor may not have been given before. -/
def add (r : Reader) (anchor : Option String) (n : Node) : Option (Nat × Reader) :=
  let id := r.nodes.size
  let r := { r with nodes := r.nodes.push n }
  match anchor with
  | none => some (id, r)
  | some a =>
    if r.anchors.any (·.1 == a) then none
    else some (id, { r with anchors := (a, id) :: r.anchors })

/-- Gives a collection its parts. -/
def fill (r : Reader) (id : Nat) (content : Content) : Reader :=
  { r with nodes := r.nodes.modify id ({ · with content }) }

/-- What stands where nothing was written. -/
def addEmpty (r : Reader) : Option (Nat × Reader) := r.add none ⟨.null, .scalar ""⟩

end Reader

/-- The tag of a node; a lone mark stands for none. -/
def tagOr (tag : Option String) (kind : Tag) : Tag :=
  match tag.filter (· != "!") with
  | some name => .ofName name
  | none => kind

/-- The tag of a scalar. By its form a plain one has a tag of its own, and any after a lone mark. -/
def scalarTag (tag : Option String) (text : String) (plain : Bool) : Tag :=
  tagOr tag (if plain || tag.isSome then .ofText text else .text)

mutual

/-- A node. Outside brackets it may be a block; where a mapping's value is expected, the items of a
sequence need no indentation. -/
def read : Nat → (block indentless : Bool) → Reader → Option (Nat × Reader)
  | 0, _, _, _ => none
  | n + 1, block, indentless, r =>
    match r.next with
    | some (.alias name) => (r.anchors.lookup name).map (·, r.skip)
    | _ => do
      let ((anchor, tag), r) ← r.properties
      readContent n block indentless anchor tag r

/-- What follows the properties of a node; with properties it may be nothing. -/
def readContent : Nat → (block indentless : Bool) → (anchor tag : Option String) → Reader →
    Option (Nat × Reader)
  | 0, _, _, _, _, _ => none
  | n + 1, block, indentless, anchor, tag, r =>
    let items := fun (r : Reader) (read : Reader → Option (List Nat × Reader)) =>
      (r.add anchor ⟨tagOr tag .sequence, .sequence []⟩).bind fun (id, r) =>
        (read r).map fun (l, r) => (id, r.fill id (.sequence l))
    let entries := fun (r : Reader) (read : Reader → Option (List (Nat × Nat) × Reader)) =>
      (r.add anchor ⟨tagOr tag .mapping, .mapping []⟩).bind fun (id, r) =>
        (read r).map fun (l, r) => (id, r.fill id (.mapping l))
    let scalar := fun (r : Reader) (text : String) (plain : Bool) =>
      r.add anchor ⟨scalarTag tag text plain, .scalar text⟩
    let nothing := if anchor.isSome || tag.isSome then scalar r "" true else none
    match r.next with
    | some .item => if indentless then items r (readItems n true) else nothing
    | some (.scalar text plain) => scalar r.skip text plain
    | some .flowSequenceStart => items r.skip (readFlowItems n true)
    | some .flowMappingStart => entries r.skip (readFlowEntries n true)
    | some .sequenceStart => if block then items r.skip (readItems n false) else nothing
    | some .mappingStart => if block then entries r.skip (readEntries n) else nothing
    | _ => nothing

/-- The items of a block sequence; one without indentation ends where no hyphen follows. -/
def readItems : Nat → (indentless : Bool) → Reader → Option (List Nat × Reader)
  | 0, _, _ => none
  | n + 1, indentless, r =>
    match r.next with
    | some .item => do
      let r := r.skip
      let nothing := r.isNextAmong [.item, .blockEnd] ||
        (indentless && r.isNextAmong [.key, .value])
      let (node, r) ← if nothing then r.addEmpty else read n true false r
      let (rest, r) ← readItems n indentless r
      return (node :: rest, r)
    | _ => if indentless then some ([], r) else (r.expect .blockEnd).map ([], ·)

/-- A part of an entry of a block mapping. -/
def readPart : Nat → Reader → Option (Nat × Reader)
  | 0, _ => none
  | n + 1, r =>
    if r.isNextAmong [.key, .value, .blockEnd] then r.addEmpty else read n true true r

def readEntries : Nat → Reader → Option (List (Nat × Nat) × Reader)
  | 0, _ => none
  | n + 1, r =>
    match r.next with
    | some .key => do
      let (key, r) ← readPart n r.skip
      let (value, r) ← if r.next == some .value then readPart n r.skip else r.addEmpty
      let (rest, r) ← readEntries n r
      return ((key, value) :: rest, r)
    | _ => (r.expect .blockEnd).map ([], ·)

/-- A part of an entry in brackets, which ends at a comma or at one of some tokens. -/
def readFlowPart : Nat → (ends : List Token) → Reader → Option (Nat × Reader)
  | 0, _, _ => none
  | n + 1, ends, r =>
    if r.isNextAmong (.separator :: ends) then r.addEmpty else read n false false r

/-- An entry in brackets after its key token. -/
def readFlowEntry : Nat → (closing : Token) → Reader → Option ((Nat × Nat) × Reader)
  | 0, _, _ => none
  | n + 1, closing, r => do
    let (key, r) ← readFlowPart n [.value, closing] r
    let (value, r) ← if r.next == some .value then readFlowPart n [closing] r.skip else r.addEmpty
    return ((key, value), r)

/-- The items of a sequence in brackets; an item may be a mapping of a single entry. -/
def readFlowItems : Nat → (first : Bool) → Reader → Option (List Nat × Reader)
  | 0, _, _ => none
  | n + 1, first, r =>
    if r.next == some .flowSequenceEnd then some ([], r.skip)
    else do
      let r ← if first then some r else r.expect .separator
      match r.next with
      | some .flowSequenceEnd => some ([], r.skip)
      | some .key =>
        let (id, r) ← r.skip.add none ⟨.mapping, .mapping []⟩
        let (entry, r) ← readFlowEntry n .flowSequenceEnd r
        let (rest, r) ← readFlowItems n false (r.fill id (.mapping [entry]))
        return (id :: rest, r)
      | _ =>
        let (node, r) ← read n false false r
        let (rest, r) ← readFlowItems n false r
        return (node :: rest, r)

/-- The entries of a mapping in brackets; a node alone is a key without a value. -/
def readFlowEntries : Nat → (first : Bool) → Reader → Option (List (Nat × Nat) × Reader)
  | 0, _, _ => none
  | n + 1, first, r =>
    if r.next == some .flowMappingEnd then some ([], r.skip)
    else do
      let r ← if first then some r else r.expect .separator
      match r.next with
      | some .flowMappingEnd => some ([], r.skip)
      | some .key =>
        let (entry, r) ← readFlowEntry n .flowMappingEnd r.skip
        let (rest, r) ← readFlowEntries n false r
        return (entry :: rest, r)
      | _ =>
        let (key, r) ← read n false false r
        let (value, r) ← r.addEmpty
        let (rest, r) ← readFlowEntries n false r
        return ((key, value) :: rest, r)

end

/-- Takes in the directives at the front: a version has to be 1, and may be given once, as may a
handle. -/
def readDirectives : Reader → (versioned : Bool) → (given : List String) → List Token → Option Reader
  | r, versioned, given, t :: rest =>
    let next := { r with tokens := rest }
    match t with
    | .version major _ =>
      if major = 1 && !versioned then readDirectives next true given rest else none
    | .tagHandle handle text =>
      if given.contains handle then none
      else
        readDirectives { next with handles := (handle, text) :: r.handles } versioned
          (handle :: given) rest
    | .otherDirective => readDirectives next versioned given rest
    | _ => some r
  | r, _, _, [] => some r

def isDirective : Token → Bool
  | .version .. | .tagHandle .. | .otherDirective => true
  | _ => false

/-- A document after its start mark. -/
def readBody (r : Reader) : Option (Nat × Reader) :=
  if r.next.all fun t => isDirective t || t == .documentStart || t == .documentEnd then r.addEmpty
  else read (4 * r.tokens.length + 8) true false r

/-- The only document; none if there is no document. -/
def ofTokens (tokens : List Token) : Option (Option Document) :=
  let r : Reader := ⟨tokens, [], defaultHandles, #[]⟩
  let finish := fun (root : Nat) (r : Reader) =>
    if (r.tokens.dropWhile (· == .documentEnd)).isEmpty then some (some ⟨r.nodes, root⟩) else none
  match tokens with
  | [] => some none
  | t :: _ => do
    if isDirective t || t == .documentStart then
      let r ← readDirectives r false [] tokens
      let r ← r.expect .documentStart
      let (root, r) ← readBody r
      finish root r
    else
      let (root, r) ← read (4 * tokens.length + 8) true false r
      finish root r

end Document

end MetricArchive.Yaml
