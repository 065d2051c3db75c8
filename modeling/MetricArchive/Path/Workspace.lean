import MetricArchive.Path.Basic
import MetricArchive.Text.Excerpt

/-!
# The working folder

Files and folders below the working folder, by their names from there, and what is known of the
machine around it. A path is followed name by name from the working folder or from the root. A
folder that is closed lets nobody look up a name in it, every name but the last has to lead to a
folder, double dots lead back, and a link leads on to where its own path does.
-/
namespace MetricArchive

/-- What a place holds. -/
inductive Entry (α : Type) where
  | folder
  | file (content : α)
  deriving DecidableEq, Repr

/-- Places below the working folder, each with what it holds. -/
structure Workspace (α : Type) where
  entries : List (List String × Entry α)
  deriving DecidableEq, Repr

/-- What is around the working folder. All names lead from the root. -/
structure Machine (α : Type) where
  /-- Where the working folder is. -/
  here : List String
  /-- Places that are not below the working folder. -/
  entries : List (List String × Entry α)
  /-- Places that hold nothing but the path of another one. -/
  links : List (List String × Path)
  /-- Folders in which nothing may be looked up, links that may not be followed, and files that may
  not be read. -/
  closed : List (List String)
  deriving DecidableEq, Repr

inductive Place where
  /-- Names from the root, double dots followed; the last one need not exist. -/
  | reached (names : List String)
  /-- The names up to the first one on the way that is missing or is no folder. -/
  | blocked (names : List String)
  /-- A name, or the path as a whole, is longer than a file system takes. -/
  | overlong
  /-- A name was to be looked up in a folder that is closed, or behind a link that is. -/
  | closed
  /-- Links lead on and on. -/
  | looping
  /-- No file system takes the zero character. -/
  | unnameable
  deriving DecidableEq, Repr

namespace Machine

variable {α : Type}

/-- Nothing is known. No path from the root leads to the working folder, because no name in a path
is empty. -/
def unknown : Machine α := ⟨[""], [], [], []⟩

/-- The names from the working folder to a place below it. -/
def below? (m : Machine α) (names : List String) : Option (List String) :=
  if m.here.isPrefixOf names then some (names.drop m.here.length) else none

def isOutside (m : Machine α) : Place → Bool
  | .reached names | .blocked names => (m.below? names).isNone
  | _ => false

end Machine

namespace Workspace

variable {α : Type}

def empty : Workspace α := ⟨[]⟩

/-- What stands at some names; the working folder itself is a folder. -/
def at? (w : Workspace α) (names : List String) : Option (Entry α) :=
  if names.isEmpty then some .folder else w.entries.lookup names

def put (w : Workspace α) (names : List String) (e : Entry α) : Workspace α :=
  ⟨w.entries.filter (·.1 != names) ++ [(names, e)]⟩

/-- Makes the folders that lead to some names, outermost first. -/
def makeFolders (w : Workspace α) (names : List String) : Workspace α :=
  let leading := (List.range names.length).map fun i => names.take (i + 1)
  let missing := leading.filter fun n => (w.at? n).isNone
  ⟨w.entries ++ missing.map fun n => (n, .folder)⟩

/-- Adds a file together with the folders that lead to it. -/
def addFile (w : Workspace α) (names : List String) (content : α) : Workspace α :=
  (w.makeFolders names.dropLast).put names (.file content)

/-- What stands at some names from the root. The folders that lead to the working folder exist. -/
def stands? (w : Workspace α) (m : Machine α) (names : List String) : Option (Entry α) :=
  match m.below? names with
  | some inner => w.at? inner
  | none => if names.isPrefixOf m.here then some .folder else m.entries.lookup names

def isFolder (w : Workspace α) (m : Machine α) (names : List String) : Bool :=
  match w.stands? m names with
  | some .folder => true
  | _ => false

def nameLimit : Nat := 255

def pathLimit : Nat := 4095

def linkLimit : Nat := 40

/-- Follows names from a folder that has been reached. `jump` goes on behind a link, from the folder
where the link's path starts. -/
def followFrom (w : Workspace α) (m : Machine α)
    (jump : (link folder names : List String) → Place) (folder : List String) :
    List String → Place
  | [] => .reached folder
  | name :: rest =>
    if m.closed.contains folder then .closed
    else if nameLimit < name.utf8ByteSize then .overlong
    else
      let next := Path.move folder name
      match m.links.lookup next with
      | some p => jump next (p.origin folder) (p.steps ++ rest)
      | none =>
        if rest.isEmpty then .reached next
        else if w.isFolder m next then followFrom w m jump next rest
        else .blocked next

/-- Follows names and at most so many links. -/
def follow (w : Workspace α) (m : Machine α) : (links : Nat) → (folder names : List String) → Place
  | 0 => w.followFrom m fun _ _ _ => .looping
  | links + 1 => w.followFrom m fun link folder names =>
    if m.closed.contains link then .closed else follow w m links folder names

def locate (w : Workspace α) (p : Path) (m : Machine α := .unknown) : Place :=
  if p.text.toList.contains '\x00' then .unnameable
  else if pathLimit < p.text.utf8ByteSize then .overlong
  else w.follow m linkLimit (p.origin m.here) p.steps

def find? (w : Workspace α) (p : Path) (m : Machine α := .unknown) : Option (Entry α) :=
  match w.locate p m with
  | .reached names => w.stands? m names
  | _ => none

def endsInLink (w : Workspace α) (p : Path) (m : Machine α) : Bool :=
  match w.locate p.parent m, p.names.getLast? with
  | .reached folder, some name => (m.links.lookup (Path.move folder name)).isSome
  | _, _ => false

/-- The content of a file that may be read. -/
def read? (w : Workspace α) (p : Path) (m : Machine α := .unknown) : Option α :=
  match w.locate p m with
  | .reached names =>
    match w.stands? m names with
    | some (.file content) => if m.closed.contains names then none else some content
    | _ => none
  | _ => none

def overlongMessage (p : Path) : String :=
  "[Errno 36] File name too long: " ++ Text.excerpt p.text

def closedMessage (p : Path) : String := "[Errno 13] Permission denied: " ++ Text.excerpt p.text

/-- All places in order of their names. -/
def places (w : Workspace α) : List String :=
  (w.entries.map fun e => "/".intercalate e.1).mergeSort fun a b => !(b < a)

end Workspace

end MetricArchive
