import MetricArchive.Text.Split
import MetricArchive.Url.Percent

/-!
# File URIs

A database may be given as a URI of the scheme `file`: between two slashes and the path an authority
may stand, after a question mark options follow, and a number sign ends it all. Path and options are
percent-encoded; an encoded null character ends the part that it stands in.
-/
namespace MetricArchive

structure FileUri where
  authority : String
  path : String
  options : List (String × String)
  deriving DecidableEq, Repr

namespace FileUri

open Text (cutAt split)

def decodePart (cs : List Char) : String := String.ofList ((Url.decode cs).takeWhile (· != '\x00'))

/-- An option without a name means nothing. -/
def readOption? (cs : List Char) : Option (String × String) :=
  let (name, value) := cutAt '=' cs
  if decodePart name == "" then none else some (decodePart name, decodePart (value.getD []))

def cutAuthority : List Char → List Char × List Char
  | '/' :: '/' :: rest => (rest.takeWhile (· != '/'), rest.dropWhile (· != '/'))
  | cs => ([], cs)

/-- Any text of another scheme, or of none, is not a URI but a path. -/
def read? : List Char → Option FileUri
  | 'f' :: 'i' :: 'l' :: 'e' :: ':' :: cs =>
    let (authority, rest) := cutAuthority cs
    let (path, query) := cutAt '?' (rest.takeWhile (· != '#'))
    some ⟨String.ofList authority, decodePart path,
      (query.elim [] (split '&')).filterMap readOption?⟩
  | _ => none

def isLocal (u : FileUri) : Bool := u.authority == "" || u.authority == "localhost"

/-- The path or an option asks for a database that is kept nowhere. -/
def isMemory (u : FileUri) : Bool :=
  u.path == "" || u.path == ":memory:" || u.options.contains ("mode", "memory")

end FileUri

end MetricArchive
