import MetricArchive.Path.Basic
import MetricArchive.Problem
import MetricArchive.Store.DatabaseUrl

/-!
# Where a store is kept

An output is the path of a file or a database URL. Either becomes a URL for the one driver there is.
Outputs that name a store in memory are refused, because all scrapes would be lost with it.
-/
namespace MetricArchive

inductive LocationFault where
  | problem (p : Problem)
  | port (f : Text.IntegerFault)
  | homeUnknown
  deriving DecidableEq, Repr

def LocationFault.message : LocationFault → String
  | .problem p => p.message
  | .port f => f.message
  | .homeUnknown => Path.unknownHomeMessage

namespace Location

def driver : String := "sqlite+aiosqlite"

def inMemory (output : String) : Problem :=
  .configuration "An in-memory store loses every scrape; give a file path" [("url", .text output)]

def unsupported (output : String) : Problem :=
  .configuration s!"Unsupported database URL: {output}" [("url", .text output)]

def invalid (output : String) : Problem :=
  .configuration s!"Invalid database URL: {output}" [("url", .text output)]

def isUrl (output : String) : Bool :=
  (Text.cutAtPhrase? [':', '/', '/'] output.toList).isSome

def ofPath (homes : Path.Homes) (output : String) : Except LocationFault String :=
  if output == "" || output == ":memory:" then .error (.problem (inMemory output))
  else
    match (Path.ofText output).expandHome? homes with
    | none => .error .homeUnknown
    | some path => .ok (driver ++ ":///" ++ path.text)

def namesMemory (u : DatabaseUrl) : Bool :=
  (u.database.getD "") == "" || u.database == some ":memory:" || u.single? "mode" == some "memory"

def ofUrl (output : String) : Except LocationFault String :=
  match DatabaseUrl.read output with
  | .error .unreadable => .error (.problem (invalid output))
  | .error (.port f) => .error (.port f)
  | .ok u =>
    if u.backend != "sqlite" then .error (.problem (unsupported output))
    else if namesMemory u then .error (.problem (inMemory output))
    else .ok { u with driver := driver }.text

def url (homes : Path.Homes) (output : String) : Except LocationFault String :=
  if isUrl output then ofUrl output else ofPath homes output

/-- The folder of the store's file: whatever stands after the first three slashes is its path. -/
def folder? (url : String) : Option Path :=
  match Text.cutAtPhrase? ['/', '/', '/'] url.toList with
  | none | some (_, []) => none
  | some (_, path) => some (Path.ofText (String.ofList path)).parent

end Location

end MetricArchive
