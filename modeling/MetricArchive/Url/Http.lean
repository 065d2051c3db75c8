import MetricArchive.Text.Case
import MetricArchive.Text.Integer
import MetricArchive.Url.Address
import MetricArchive.Url.HostName

/-!
# Addresses of endpoints

Reading an HTTP address normalizes it: scheme and host in small letters, international hosts in
their ASCII form, dots in the path followed, no port that the scheme implies, and everything else
percent-encoded where it has to be. Port numbers may be of any size.
-/
namespace MetricArchive

structure HttpUrl where
  scheme : String
  userInfo : String
  /-- In ASCII, and without the brackets around a colon address. -/
  host : String
  port : Option Int
  path : String
  query : Option String
  fragment : Option String
  deriving DecidableEq, Repr

structure UrlParts where
  scheme : List Char
  authority : List Char
  path : List Char
  query : Option (List Char)
  fragment : Option (List Char)

inductive UrlFault where
  | overlong
  | unprintable (c : Char) (position : Nat)
  /-- A single part is too long. -/
  | overlongPart (name : String)
  | unprintablePart (name : String) (c : Char) (position : Nat)
  | dottedAddress (host : String)
  | colonAddress (host : String)
  | hostName (host : String)
  | port (text : String)
  | doubleSlash
  | leadingColon
  | rootless
  deriving DecidableEq, Repr

def UrlFault.message : UrlFault → String
  | .overlong => "URL too long"
  | .unprintable c position =>
    "Invalid non-printable ASCII character in URL, " ++ Text.excerpt (String.singleton c) ++
      s!" at position {position}."
  | .overlongPart name => s!"URL component '{name}' too long"
  | .unprintablePart name c position =>
    s!"Invalid non-printable ASCII character in URL {name} component, " ++
      Text.excerpt (String.singleton c) ++ s!" at position {position}."
  | .dottedAddress text => "Invalid IPv4 address: " ++ Text.excerpt text
  | .colonAddress host => "Invalid IPv6 address: " ++ Text.excerpt host
  | .hostName host => "Invalid IDNA hostname: " ++ Text.excerpt host
  | .port text => "Invalid port: " ++ Text.excerpt text
  | .doubleSlash => "Relative URLs cannot have a path starting with '//'"
  | .leadingColon => "Relative URLs cannot have a path starting with ':'"
  | .rootless => "For absolute URLs, path must be empty or begin with '/'"

namespace HttpUrl

open Text Url

def lengthLimit : Nat := 65536

def isUnprintable (c : Char) : Bool := c.toNat < 0x20 || c.toNat == 0x7f

/-- The printable ASCII characters apart from some. -/
def plainExcept (others : List Char) (c : Char) : Bool :=
  0x20 ≤ c.toNat && c.toNat < 0x7f && !others.contains c

def inQuery : List Char := [' ', '"', '#', '<', '>']

def inPath : List Char := inQuery ++ ['?', '\x60', '\x7b', '\x7d']

def inUserInfo : List Char := inPath ++ ['/', ';', '=', '@', '[', '\\', ']', '^', '|']

def inFragment : List Char := [' ', '"', '<', '>', '\x60']

def keptInHost (c : Char) : Bool :=
  isUnreserved c || "!$&'()*+,;=\"\x60\x7b\x7d%|\\".toList.contains c

/-- Percent signs that start no triple stay as they are, since they are plain too. -/
def quoted (others cs : List Char) : String := String.ofList (encode (plainExcept others) cs)

/-- Cuts at the first character of a class; the character stays with the rest. -/
def span (stops : List Char) (cs : List Char) : List Char × List Char :=
  (cs.takeWhile (!stops.contains ·), cs.dropWhile (!stops.contains ·))

def isSchemeTail (c : Char) : Bool := isAsciiLetterOrDigit c || c == '+' || c == '.' || c == '-'

/-- The scheme before a colon, empty if there is none. A colon at the very front counts too. -/
def cutScheme (cs : List Char) : List Char × List Char :=
  match cutAt ':' cs with
  | (scheme, some rest) =>
    match scheme with
    | [] => ([], rest)
    | c :: tail =>
      if c.isAlpha && tail.all isSchemeTail then (scheme, rest) else ([], cs)
  | (_, none) => ([], cs)

/-- What stands between two slashes and the path; none without the slashes. -/
def cutAuthority : List Char → List Char × List Char
  | '/' :: '/' :: rest => span ['/', '?', '#'] rest
  | cs => ([], cs)

/-- User information before the last at-sign, host and port. A host in brackets ends at the last
bracket. -/
def splitAuthority (cs : List Char) : List Char × List Char × List Char :=
  let (user, rest) := (cutAtLast? '@' cs).getD ([], cs)
  let (host, rest) :=
    match rest, cutAtLast? ']' rest with
    | '[' :: _, some (inner, after) => (inner ++ [']'], after)
    | _, _ => span [':', '@'] rest
  (user, host, if rest.head? == some ':' then rest.tail else rest)

def readHost (host : List Char) : Except UrlFault String :=
  let text := String.ofList host
  if host.isEmpty then .ok ""
  else if resemblesDotted host then
    if isDottedAddress host then .ok text else .error (.dottedAddress text)
  else if host.head? == some '[' && host.getLast? == some ']' && 2 ≤ host.length then
    let inner := host.tail.dropLast
    if isColonAddress inner then .ok (String.ofList inner) else .error (.colonAddress text)
  else if host.all Punycode.isPlain then
    .ok (String.ofList (encode keptInHost (lowerCase host)))
  else
    match nameToAscii (lowerCase host) with
    | .ok name => .ok (String.ofList name)
    | .error _ => .error (.hostName text)

def defaultPorts : List (String × Int) :=
  [("ftp", 21), ("http", 80), ("https", 443), ("ws", 80), ("wss", 443)]

/-- No port if none is written or if the scheme implies it. -/
def readPort (scheme : String) (port : List Char) : Except UrlFault (Option Int) :=
  if port.isEmpty then .ok none
  else
    match readWhole (String.ofList port) with
    | .error _ => .error (.port (String.ofList port))
    | .ok n => .ok (if defaultPorts.lookup scheme == some n then none else some n)

/-- Follows single and double dots; a double dot never goes above the root. -/
def followDots (segments : List (List Char)) : List (List Char) :=
  segments.foldl (fun out s =>
    if s == ['.'] then out
    else if s == ['.', '.'] then if out == [[]] then out else out.dropLast
    else out ++ [s]) []

def normalPath (cs : List Char) : List Char :=
  let segments := split '/' cs
  if segments.any fun s => s == ['.'] || s == ['.', '.'] then ['/'].intercalate (followDots segments)
  else cs

def cut (cs : List Char) : UrlParts :=
  let (scheme, rest) := cutScheme cs
  let (authority, rest) := cutAuthority rest
  let (path, rest) := span ['?', '#'] rest
  let (query, rest) := if rest.head? == some '?' then
    (some (span ['#'] rest.tail).1, (span ['#'] rest.tail).2) else (none, rest)
  ⟨scheme, authority, path, query, if rest.head? == some '#' then some rest.tail else none⟩

/-- The address with the given parts. A host that is given by itself replaces the one among them. -/
def ofParts (p : UrlParts) (host? : Option (List Char)) : Except UrlFault HttpUrl :=
  let (user, hostText, portText) := splitAuthority p.authority
  let scheme := String.ofList (lowerCase p.scheme)
  (readHost (host?.getD hostText)).bind fun host =>
  (readPort (String.ofList p.scheme) portText).bind fun port =>
    let user := quoted inUserInfo user
    let hasAuthority := !user.isEmpty || !host.isEmpty || port.isSome
    let relative := scheme.isEmpty && !hasAuthority
    if hasAuthority && !p.path.isEmpty && p.path.head? != some '/' then .error .rootless
    else if relative && ['/', '/'].isPrefixOf p.path then .error .doubleSlash
    else if relative && p.path.head? == some ':' then .error .leadingColon
    else
      .ok ⟨scheme, user, host, port,
        quoted inPath (if relative then p.path else normalPath p.path),
        p.query.map (quoted inQuery), p.fragment.map (quoted inFragment)⟩

def unprintable? (cs : List Char) : Option (Char × Nat) :=
  cs.zipIdx.find? fun (c, _) => isUnprintable c

def read (s : String) : Except UrlFault HttpUrl :=
  let cs := s.toList
  if lengthLimit < cs.length then .error .overlong
  else
    match unprintable? cs with
    | some (c, i) => .error (.unprintable c i)
    | none => ofParts (cut cs) none

/-- The host as people write it: an encoded international name is decoded if the first label is. -/
def hostName (u : HttpUrl) : Except NameFault String :=
  if u.host.startsWith "xn--" then (nameToUnicode u.host.toList).map String.ofList else .ok u.host

def netloc (u : HttpUrl) : String :=
  (if u.host.toList.contains ':' then "[" ++ u.host ++ "]" else u.host) ++ u.port.elim "" fun n => s!":{n}"

def authority (u : HttpUrl) : String :=
  (if u.userInfo.isEmpty then "" else u.userInfo ++ "@") ++ u.netloc

def text (u : HttpUrl) : String :=
  (if u.scheme.isEmpty then "" else u.scheme ++ ":") ++
    (if u.authority.isEmpty then "" else "//" ++ u.authority) ++
    u.path ++ u.query.elim "" ("?" ++ ·) ++ u.fragment.elim "" ("#" ++ ·)

/-- Whether an address says whom to ask and how. -/
def isComplete (u : HttpUrl) : Bool := !u.scheme.isEmpty && !u.host.isEmpty

/-- The path within a site, decoded. -/
def sitePath (u : HttpUrl) : List Char :=
  let path := if u.isComplete then u.path.toList
    else normalPath ('/' :: u.path.toList.dropWhile (· == '/'))
  decode (if path.isEmpty then ['/'] else path)

/-- The address that is asked for. One without scheme or host is taken below the root of no host. -/
def merged (u : HttpUrl) : HttpUrl :=
  if u.isComplete then u
  else ⟨"", "", "", none, "/" ++ String.ofList (u.path.toList.dropWhile (· == '/')), u.query, none⟩

def requested (u : HttpUrl) : String := u.merged.text

end HttpUrl

end MetricArchive
