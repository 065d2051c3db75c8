import MetricArchive.Store.FileUri
import MetricArchive.Store.Opening
import MetricArchive.Store.Tables

/-!
# Files that hold stores

A file holds some data or a store. A store is opened where its file stands; a missing or an empty
file becomes a new store, and any other data is refused. Outside the working folder nothing is
written back, and a store in memory does not even last from one connection to the next.
-/
namespace MetricArchive

inductive FileContent where
  | data (bytes : List UInt8)
  | store (s : Store)

def storeFileHeader : String := "SQLite format 3\x00"

/-- The bytes of a file, as far as they are known. -/
def FileContent.bytes : FileContent → List UInt8
  | .data bytes => bytes
  | .store _ => storeFileHeader.toUTF8.data.toList

inductive StoreRefusal where
  | notOpenable
  | notStore
  | unnameable
  deriving DecidableEq, Repr

def StoreRefusal.message : StoreRefusal → String
  | .notOpenable =>
    "Cannot initialize metric store: (sqlite3.OperationalError) unable to open database file"
  | .notStore => "Cannot initialize metric store: (sqlite3.DatabaseError) file is not a database"
  | .unnameable => "embedded null byte"

/-- The problem that a refusal is. A name that cannot be is found out before the store is asked. -/
def StoreRefusal.problem? : StoreRefusal → Option Problem
  | .unnameable => none
  | r => some ⟨.storage, r.message, []⟩

/-- A store that has been opened and the names of its file, if it is kept. -/
structure KeptStore where
  names : Option (List String)
  store : Store
  /-- Whether a later connection finds the tables that an earlier one made. -/
  lasts : Bool

namespace KeptStore

def unkept : KeptStore := ⟨none, .empty, true⟩

def inMemory : KeptStore := ⟨none, .empty, false⟩

/-- Opens the store at a path. Whether it can be made where folders are missing outside the working
folder nobody knows. -/
def atPath (w : Workspace FileContent) (path : String) (m : Machine FileContent := .unknown) :
    Except StoreRefusal KeptStore :=
  match w.locate (Path.ofText path) m with
  | .unnameable => .error .unnameable
  | .overlong | .closed | .looping => .error .notOpenable
  | .blocked names => if (m.below? names).isNone then .ok unkept else .error .notOpenable
  | .reached names =>
    match w.stands? m names with
    | none => .ok ⟨m.below? names, .empty, true⟩
    | some .folder => .error .notOpenable
    | some (.file content) =>
      if m.closed.contains names then .error .notOpenable
      else
        match content with
        | .store s => .ok ⟨m.below? names, s, true⟩
        | .data bytes =>
          if bytes.isEmpty then .ok ⟨m.below? names, .empty, true⟩ else .error .notStore

def «open» (w : Workspace FileContent) (target : OpenedStore)
    (m : Machine FileContent := .unknown) : Except StoreRefusal KeptStore :=
  match target with
  | .memory => .ok inMemory
  | .file path => atPath w path m
  | .uri text =>
    match FileUri.read? text.toList with
    | none => if text == "" || text == ":memory:" then .ok inMemory else atPath w text m
    | some u =>
      if !u.isLocal then .error .notOpenable
      else if u.isMemory then .ok inMemory
      else atPath w u.path m

def save (k : KeptStore) (w : Workspace FileContent) : Workspace FileContent :=
  k.names.elim w fun names => w.put names (.file (.store k.store))

end KeptStore

end MetricArchive
