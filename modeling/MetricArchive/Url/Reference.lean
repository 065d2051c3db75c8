import MetricArchive.Url.Http

/-!
# References

A page may name another by a text that leaves out what the two have in common. The text is joined
with the address of the page, segment by segment, and what comes out is read like any address. A
part of an address can also be put in by itself; then each part has to be in order by itself.
-/
namespace MetricArchive

open Text

namespace UrlParts

def ofUrl (u : HttpUrl) : UrlParts :=
  ⟨u.scheme.toList, u.authority.toList, u.path.toList, u.query.map (·.toList),
    u.fragment.map (·.toList)⟩

/-- A query or fragment that is empty is not written. -/
def text (p : UrlParts) : List Char :=
  let optional := fun (mark : Char) (part : Option (List Char)) =>
    (part.filter (!·.isEmpty)).elim [] (mark :: ·)
  let place :=
    if p.scheme.isEmpty && p.authority.isEmpty && p.path.take 2 != ['/', '/'] then p.path
    else if p.path.isEmpty || p.path.head? == some '/' then '/' :: '/' :: p.authority ++ p.path
    else '/' :: '/' :: p.authority ++ '/' :: p.path
  (if p.scheme.isEmpty then [] else p.scheme ++ [':']) ++ place ++ optional '?' p.query ++
    optional '#' p.fragment

/-- The schemes of addresses that texts are joined with. -/
def joinedSchemes : List String :=
  ["", "ftp", "http", "gopher", "nntp", "imap", "wais", "file", "https", "shttp", "mms", "prospero",
    "rtsp", "rtsps", "rtspu", "sftp", "svn", "svn+ssh", "ws", "wss"]

/-- Those among them whose paths may end in parameters. -/
def parameterSchemes : List String :=
  ["", "ftp", "prospero", "http", "imap", "https", "shttp", "rtsp", "rtsps", "rtspu", "mms", "sftp"]

/-- A path and its parameters, which follow the first semicolon of the last segment. -/
def cutParameters (scheme path : List Char) : List Char × List Char :=
  let segments := split '/' path
  match cutAt ';' (segments.getLastD []) with
  | (last, some parameters) =>
    if parameterSchemes.contains (String.ofList scheme) then
      (['/'].intercalate (segments.dropLast ++ [last]), parameters)
    else (path, [])
  | (_, none) => (path, [])

def putParameters (path parameters : List Char) : List Char :=
  if parameters.isEmpty then path else path ++ ';' :: parameters

/-- The segments of a path below another. Between the first and the last, no empty one stays. -/
def segmentsBelow (base path : List Char) : List (List Char) :=
  if path.head? == some '/' then split '/' path
  else
    let folder := split '/' base
    let folder := if folder.getLast? == some [] then folder else folder.dropLast
    match folder ++ split '/' path with
    | [] => []
    | first :: rest => first :: rest.dropLast.filter (!·.isEmpty) ++ rest.getLast?.toList

def isDots (segment : List Char) : Bool := segment == ['.'] || segment == ['.', '.']

/-- A path taken below another. Dots are followed, and what ends in dots is a folder. -/
def mergedPath (base path : List Char) : List Char :=
  let segments := segmentsBelow base path
  let followed := segments.foldl (fun out s =>
    if s == ['.'] then out else if s == ['.', '.'] then out.dropLast else out ++ [s]) []
  let ending := if segments.getLast?.any isDots then [[]] else []
  let path := ['/'].intercalate (followed ++ ending)
  if path.isEmpty then ['/'] else path

/-- The parts of a text taken together with those of the address it is joined with; none if the
two have different schemes. -/
def below? (base p : UrlParts) : Option UrlParts :=
  let scheme := if p.scheme.isEmpty then base.scheme else p.scheme
  let (path, parameters) := cutParameters scheme p.path
  let (basePath, baseParameters) := cutParameters scheme base.path
  if scheme != base.scheme || !joinedSchemes.contains (String.ofList scheme) then none
  else if !p.authority.isEmpty then
    some { p with scheme, path := putParameters path parameters }
  else if path.isEmpty && parameters.isEmpty then
    some { p with
      scheme
      authority := base.authority
      path := putParameters basePath baseParameters
      query := if (p.query.getD []).isEmpty then base.query else p.query }
  else
    some { p with
      scheme
      authority := base.authority
      path := putParameters (mergedPath basePath path) parameters }

end UrlParts

namespace HttpUrl

def join (base reference : String) : String :=
  if base.isEmpty then reference
  else if reference.isEmpty then base
  else ((cut base.toList).below? (cut reference.toList)).elim reference fun p => String.ofList p.text

def checkPart (name : String) (part : List Char) : Except UrlFault Unit :=
  if lengthLimit < part.length then .error (.overlongPart name)
  else
    match unprintable? part with
    | some (c, i) => .error (.unprintablePart name c i)
    | none => .ok ()

/-- The address with parts that were put together one by one. -/
def assemble (p : UrlParts) (host? : Option (List Char)) : Except UrlFault HttpUrl := do
  checkPart "scheme" p.scheme
  checkPart "authority" p.authority
  checkPart "path" p.path
  checkPart "query" (p.query.getD [])
  checkPart "fragment" (p.fragment.getD [])
  checkPart "host" (host?.getD [])
  ofParts p host?

/-- The address at another host, which is given as people write it. -/
def withHost (u : HttpUrl) (host : String) : Except UrlFault HttpUrl :=
  let host := host.toList
  assemble (.ofUrl u) (some (if host.contains ':' then '[' :: host ++ [']'] else host))

/-- The address with a fragment as people write it. -/
def withFragment (u : HttpUrl) (fragment : List Char) : Except UrlFault HttpUrl :=
  assemble { UrlParts.ofUrl u with fragment := some fragment } none

end HttpUrl

end MetricArchive
