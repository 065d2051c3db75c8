import MetricArchive.Text.Integer
import MetricArchive.Text.Split
import MetricArchive.Text.Word
import MetricArchive.Url.Percent

/-!
# Database URLs

A database URL has a driver, a user with a password, a host with a port, a database and a query;
only the driver must be there. Reading takes as much of the text as has this form and leaves the
rest alone. Writing puts the keys of the query in order.
-/
namespace MetricArchive

structure DatabaseUrl where
  driver : String
  user : Option String
  password : Option String
  host : Option String
  port : Option Int
  database : Option String
  /-- Each key once, with its values in the order read. -/
  query : List (String × List String)
  deriving DecidableEq, Repr

inductive DatabaseUrlFault where
  | unreadable
  | port (f : Text.IntegerFault)
  deriving DecidableEq, Repr

namespace DatabaseUrl

open Text (cutAt cutAtLast? split)

/-- Puts a value under its key, new keys last. -/
def addValue (q : List (String × List String)) (key value : String) : List (String × List String) :=
  if q.any (·.1 == key) then
    q.map fun (k, vs) => if k == key then (k, vs ++ [value]) else (k, vs)
  else q ++ [(key, [value])]

def decodePlus (cs : List Char) : String :=
  String.ofList (Url.decode (cs.map fun c => if c == '+' then ' ' else c))

/-- Keys without a value, or with an empty one, are dropped. -/
def readQuery (cs : List Char) : List (String × List String) :=
  (split '&' cs).foldl (fun q item =>
    match cutAt '=' item with
    | (key, some (c :: value)) => addValue q (decodePlus key) (decodePlus (c :: value))
    | _ => q) []

/-- User and password end at an at sign. A password may hold anything else; a user has no colon and
no slash. -/
def takeCredentials (cs : List Char) : Option (List Char × Option (List Char)) × List Char :=
  let run := cs.takeWhile fun c => c != ':' && c != '/'
  let rest := cs.drop run.length
  let userOnly := match cutAtLast? '@' run with
    | some (user, after) => (some (user, none), after ++ rest)
    | none => (none, cs)
  match rest with
  | ':' :: secret =>
    match cutAt '@' secret with
    | (password, some after) => (some (run, some password), after)
    | (_, none) => userOnly
  | _ => userOnly

def takePlainHost (cs : List Char) : Option (List Char) × List Char :=
  let host := cs.takeWhile fun c => c != '/' && c != ':' && c != '?'
  (if host.isEmpty then none else some host, cs.drop host.length)

/-- A host in brackets may hold colons. -/
def takeHost (cs : List Char) : Option (List Char) × List Char :=
  let run := cs.takeWhile fun c => c != '/' && c != '?'
  match run with
  | '[' :: inner =>
    match cutAtLast? ']' inner with
    | some (c :: host, after) => (some (c :: host), after ++ cs.drop run.length)
    | _ => takePlainHost cs
  | _ => takePlainHost cs

/-- A part that begins with a mark and runs up to some characters. -/
def takePart (mark : Char) (ends : Char → Bool) : List Char → Option (List Char) × List Char
  | [] => (none, [])
  | c :: rest =>
    if c == mark then
      let part := rest.takeWhile (!ends ·)
      (some part, rest.drop part.length)
    else (none, c :: rest)

def readPort : Option (List Char) → Except DatabaseUrlFault (Option Int)
  | none => .ok none
  | some digits =>
    match Text.readWhole (String.ofList digits) with
    | .ok n => .ok (some n)
    | .error f => .error (.port f)

def readAfterDriver (driver : String) (cs : List Char) : Except DatabaseUrlFault DatabaseUrl :=
  let (credentials, rest) := takeCredentials cs
  let (host, rest) := takeHost rest
  let (port, rest) := takePart ':' (fun c => c == '/' || c == '?') rest
  let (database, rest) := takePart '/' (· == '?') rest
  let (query, _) := takePart '?' (· == '\n') rest
  let decoded := fun (part : Option (List Char)) => part.map fun cs => String.ofList (Url.decode cs)
  (readPort port).map fun port =>
    ⟨driver, decoded (credentials.map (·.1)), decoded (credentials.bind (·.2)),
      host.map String.ofList, port, decoded database, query.elim [] readQuery⟩

def read (s : String) : Except DatabaseUrlFault DatabaseUrl :=
  let driver := s.toList.takeWhile fun c => Text.isWordCharacter c || c == '+'
  match s.toList.drop driver.length with
  | ':' :: '/' :: '/' :: rest =>
    if driver.isEmpty then .error .unreadable else readAfterDriver (String.ofList driver) rest
  | _ => .error .unreadable

/-- The kind of database: the driver up to a plus sign. -/
def backend (u : DatabaseUrl) : String := String.ofList (cutAt '+' u.driver.toList).1

def encodeName (s : String) : String :=
  String.ofList (Url.encode (fun c => Url.isUnreserved c || c == ' ' || c == '+') s.toList)

def encodeDatabase (s : String) : String :=
  String.ofList (Url.encode
    (fun c => Url.isUnreserved c || c == ' ' || c == '+' || c == '/') s.toList)

def credentialsText (u : DatabaseUrl) : String :=
  match u.user with
  | none => ""
  | some user => encodeName user ++ u.password.elim "" (fun p => ":" ++ encodeName p) ++ "@"

def hostText (host : String) : String := if host.contains ':' then "[" ++ host ++ "]" else host

def queryText (q : List (String × List String)) : String :=
  let plus := fun (s : String) => String.ofList (Url.encodePlus s.toList)
  let sorted := q.mergeSort fun a b => !(b.1 < a.1)
  let items := sorted.flatMap fun (k, vs) => vs.map fun v => plus k ++ "=" ++ plus v
  if q.isEmpty then "" else "?" ++ "&".intercalate items

def text (u : DatabaseUrl) : String :=
  u.driver ++ "://" ++ u.credentialsText ++ u.host.elim "" hostText ++
    u.port.elim "" (fun p => s!":{p}") ++
    u.database.elim "" (fun d => "/" ++ encodeDatabase d) ++ queryText u.query

/-- The value of a key that is given once. -/
def single? (u : DatabaseUrl) (key : String) : Option String :=
  match u.query.lookup key with
  | some [value] => some value
  | _ => none

end DatabaseUrl

end MetricArchive
