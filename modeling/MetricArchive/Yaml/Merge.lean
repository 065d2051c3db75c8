import MetricArchive.Yaml.Fault
import MetricArchive.Yaml.Node

/-!
# Merging mappings

An entry whose key has the merge tag stands for the entries of a mapping, or of several of which the
first counts most. They come before the entries of the mapping itself, which therefore prevail. A
mapping is merged before its entries are taken over, whatever its own tag.
-/
namespace MetricArchive.Yaml.Document

def tagOf (d : Document) (id : Nat) : Tag := d.nodes[id]?.elim .null (·.tag)

def contentOf (d : Document) (id : Nat) : Content := d.nodes[id]?.elim (.scalar "") (·.content)

def entriesOf (d : Document) (id : Nat) : List (Nat × Nat) :=
  match d.contentOf id with
  | .mapping entries => entries
  | _ => []

def setEntries (d : Document) (id : Nat) (entries : List (Nat × Nat)) : Document :=
  { d with nodes := d.nodes.modify id ({ · with content := .mapping entries }) }

/-- A key with the tag of default values is a text in a mapping. -/
def settleKey (d : Document) (key : Nat) : Document :=
  if d.tagOf key == .default then
    { d with nodes := d.nodes.modify key ({ · with tag := .text }) }
  else d

/-- The value of the first entry to be merged, and the other entries. -/
def cutMerge? (d : Document) : List (Nat × Nat) → Option (Nat × List (Nat × Nat))
  | [] => none
  | (key, value) :: rest =>
    if d.tagOf key == .merge then some (value, rest)
    else (d.cutMerge? rest).map fun (source, others) => (source, (key, value) :: others)

/-- Merges what a mapping says; `merged` are entries taken over so far. Each step removes an entry
from the document, which bounds the steps. -/
def flattenFrom : Nat → (id : Nat) → (merged : List (Nat × Nat)) → Document → Except Fault Document
  | 0, _, _, d => .ok d
  | n + 1, id, merged, d =>
    match d.cutMerge? (d.entriesOf id) with
    | none =>
      let own := d.entriesOf id
      .ok ((own.foldl (fun d e => d.settleKey e.1) d).setEntries id (merged ++ own))
    | some (source, others) => do
      let d := d.setEntries id others
      match d.contentOf source with
      | .mapping _ =>
        let d ← flattenFrom n source [] d
        flattenFrom n id (merged ++ d.entriesOf source) d
      | .sequence items =>
        let (d, groups) ← items.foldlM (fun (d, groups) item =>
          match d.contentOf item with
          | .mapping _ =>
            (flattenFrom n item [] d).map fun d => (d, d.entriesOf item :: groups)
          | _ => .error .malformed) (d, [])
        flattenFrom n id (merged ++ groups.flatten) d
      | .scalar _ => .error .malformed

def entryCount (d : Document) : Nat :=
  d.nodes.foldr (fun n count => match n.content with
    | .mapping entries => entries.length + count
    | _ => count) 0

def flatten (d : Document) (id : Nat) : Except Fault Document :=
  flattenFrom (d.entryCount + 1) id [] d

end MetricArchive.Yaml.Document
