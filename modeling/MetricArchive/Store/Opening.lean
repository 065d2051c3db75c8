import MetricArchive.Number.Numeral
import MetricArchive.Path.Workspace
import MetricArchive.Store.Location
import MetricArchive.Text.Case

/-!
# Opening a store

The folder of the store's file is made first if it is missing. The driver then reads the URL by the
same rules as any other: it takes no plugin, user, password, host or port, it reads its own settings
in the query, and only when one of these says so does it take the database for a URI of its own.
-/
namespace MetricArchive

inductive OpenedStore where
  | memory
  | file (path : String)
  | uri (text : String)
  deriving DecidableEq, Repr

/-- A URL that the driver takes, and what it opens for it. -/
structure Connection where
  url : DatabaseUrl
  target : OpenedStore
  deriving DecidableEq, Repr

inductive OpeningFault where
  | overlong (p : Path)
  | closed (p : Path)
  | notFolder (p : Path)
  | looping (p : Path)
  /-- A folder is to be made where something else stands. -/
  | taken (p : Path)
  /-- A folder is to be made whose name has the zero character. -/
  | unnameable
  | noPlugin (name : String)
  /-- The URL has parts that mean nothing for a file. -/
  | foreignParts
  /-- A setting says neither yes nor no. -/
  | unclearSwitch (text : String)
  | notNumber (text : String)
  | notWhole (f : Text.IntegerFault)
  /-- A setting that is a number is given more than once. -/
  | manyNumbers
  | manyWholes
  deriving DecidableEq, Repr

def OpeningFault.message : OpeningFault → String
  | .overlong p => Workspace.overlongMessage p
  | .closed p => Workspace.closedMessage p
  | .notFolder p => "[Errno 20] Not a directory: " ++ Text.excerpt p.text
  | .looping p => "[Errno 40] Too many levels of symbolic links: " ++ Text.excerpt p.text
  | .taken p => "[Errno 17] File exists: " ++ Text.excerpt p.text
  | .unnameable => "embedded null byte"
  | .noPlugin name => "Can't load plugin: sqlalchemy.plugins:" ++ name
  | .foreignParts => "Invalid SQLite URL"
  | .unclearSwitch text => "String is not true/false: " ++ Text.excerpt text
  | .notNumber text => Binary64.unreadableMessage text
  | .notWhole f => f.message
  | .manyNumbers => "float() argument must be a string or a real number, not 'tuple'"
  | .manyWholes =>
    "int() argument must be a string, a bytes-like object or a real number, not 'tuple'"

namespace DatabaseUrl

def yesWords : List String := ["true", "yes", "on", "y", "t", "1"]

def noWords : List String := ["false", "no", "off", "n", "f", "0"]

/-- A switch in the query. One that is given more than once is on. -/
def switch (u : DatabaseUrl) (key : String) : Except OpeningFault Bool :=
  match u.query.lookup key with
  | none => .ok false
  | some [text] =>
    let word := String.ofList (Text.lowerCase (Text.trim text.toList))
    if yesWords.contains word then .ok true
    else if noWords.contains word then .ok false
    else .error (.unclearSwitch word)
  | some _ => .ok true

def checkNumber (u : DatabaseUrl) (key : String) : Except OpeningFault Unit :=
  match u.query.lookup key with
  | none => .ok ()
  | some [text] => if (Binary64.ofText? text).isSome then .ok () else .error (.notNumber text)
  | some _ => .error .manyNumbers

def checkWhole (u : DatabaseUrl) (key : String) : Except OpeningFault Unit :=
  match u.query.lookup key with
  | none => .ok ()
  | some [text] => ((Text.readWhole text).mapError .notWhole).map fun _ => ()
  | some _ => .error .manyWholes

/-- The keys of the query that the driver keeps to itself. -/
def driverKeys : List String :=
  ["uri", "timeout", "isolation_level", "detect_types", "check_same_thread", "cached_statements"]

def pluginKeys : List String := ["plugin", "plugins"]

/-- A value that is given more than once is shown as a whole, not in parts. -/
def optionText : String × List String → String
  | (key, [value]) => key ++ "=" ++ value
  | (key, values) => key ++ "=(" ++ ", ".intercalate (values.map Text.excerpt) ++ ")"

/-- What is left of the query for a database that is a URI, in the order of the keys. -/
def uriOptions (u : DatabaseUrl) : List (String × List String) :=
  (u.query.filter fun (k, _) => !driverKeys.contains k && !pluginKeys.contains k).mergeSort
    fun a b => !(b.1 < a.1)

/-- The database as a URI. Nothing in its options is encoded anew. -/
def uriText (u : DatabaseUrl) : String :=
  u.database.getD "" ++
    if u.uriOptions.isEmpty then "" else "?" ++ "&".intercalate (u.uriOptions.map optionText)

/-- The driver's settings are read in the order of `driverKeys`; the first that cannot be read is
reported. The answer says whether the database is a URI. -/
def readSettings (u : DatabaseUrl) : Except OpeningFault Bool := do
  let uri ← u.switch "uri"
  u.checkNumber "timeout"
  u.checkWhole "detect_types"
  let _ ← u.switch "check_same_thread"
  u.checkWhole "cached_statements"
  return uri

/-- There are no plugins to load, but an empty wish for them is no fault. -/
def withoutPlugins (u : DatabaseUrl) : Except OpeningFault DatabaseUrl :=
  match u.query.lookup "plugin" with
  | some (name :: _) => .error (.noPlugin name)
  | _ => .ok { u with query := u.query.filter fun (k, _) => !pluginKeys.contains k }

def target (u : DatabaseUrl) : Except OpeningFault OpenedStore :=
  let named := fun (part : Option String) => (part.getD "") != ""
  if named u.user || named u.password || named u.host || (u.port.getD 0) != 0 then
    .error .foreignParts
  else
    u.readSettings.map fun uri =>
      let database := u.database.getD ""
      if uri then .uri u.uriText
      else if database == "" || database == ":memory:" then .memory
      else .file database

def connect (u : DatabaseUrl) : Except OpeningFault Connection := do
  let u ← u.withoutPlugins
  return ⟨u, ← u.target⟩

end DatabaseUrl

structure Opening (α : Type) where
  workspace : Workspace α
  events : List Event
  result : Except OpeningFault Connection

namespace Opening

variable {α : Type}

/-- Connects once the folder is there. -/
def connect (w : Workspace α) (events : List Event) (url : String) : Opening α :=
  match DatabaseUrl.read url with
  | .error _ => ⟨w, events, .error .foreignParts⟩
  | .ok u =>
    match u.connect with
    | .error f => ⟨w, events, .error f⟩
    | .ok c => ⟨w, events ++ [.engineCreated], .ok c⟩

/-- Makes one folder unless it is there. Nothing is made without the folder around it, nor behind a
link, and outside the working folder nothing is kept. -/
def makeFolder (m : Machine α) (w : Workspace α) (p : Path) :
    Except OpeningFault (Option (Workspace α)) :=
  match w.locate p m with
  | .overlong => .error (.overlong p)
  | .closed => .error (.closed p)
  | .unnameable => .error .unnameable
  | .looping => .error (if w.endsInLink p m then .taken p else .looping p)
  | .blocked names =>
    if w.endsInLink p m then .error (.taken p)
    else if (w.stands? m names).isSome then .error (.notFolder p)
    else .ok none
  | .reached names =>
    match w.stands? m names with
    | some .folder => .ok (some w)
    | some (.file _) => .error (.taken p)
    | none =>
      if w.endsInLink p m then .error (.taken p)
      else .ok (some ((m.below? names).elim w fun inner => w.put inner .folder))

/-- Makes a folder, whose names are given last one first, and before that the ones around it as far
as they are missing. Those that have been made stay even if one of the next cannot be made. -/
def makeFolders (m : Machine α) (root : String) :
    (names : List String) → Workspace α → Except OpeningFault Unit × Workspace α
  | [], w => (.ok (), w)
  | name :: outer, w =>
    let p : Path := ⟨root, (name :: outer).reverse⟩
    match makeFolder m w p with
    | .error f => (.error f, w)
    | .ok (some w) => (.ok (), w)
    | .ok none =>
      match makeFolders m root outer w with
      | (.error f, w) => (.error f, w)
      | (.ok (), w) =>
        match makeFolder m w p with
        | .error f => (.error f, w)
        | .ok made => (.ok (), made.getD w)

/-- Makes the folder and connects. Outside the working folder nobody knows whether it is there. -/
def start (w : Workspace α) (url : String) (m : Machine α := .unknown) : Opening α :=
  match Location.folder? url with
  | none => connect w [] url
  | some folder =>
    match w.locate folder m with
    | .overlong => ⟨w, [], .error (.overlong folder)⟩
    | .closed => ⟨w, [], .error (.closed folder)⟩
    | place =>
      if m.isOutside place || (w.find? folder m).isSome then connect w [] url
      else
        match makeFolders m folder.root folder.names.reverse w with
        | (.error f, w) => ⟨w, [.folderCreated], .error f⟩
        | (.ok (), w) => connect w [.folderCreated] url

end Opening

end MetricArchive
