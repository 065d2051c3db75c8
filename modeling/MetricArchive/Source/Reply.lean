import MetricArchive.Config.Value
import MetricArchive.Deflate.Frame
import MetricArchive.Text.Blank
import MetricArchive.Text.Excerpt
import MetricArchive.Text.Split

/-!
# Replies

A reply to a request has a status, headers and a body. The body may be compressed, several times
over, as the headers say. A reply may also send elsewhere; no one follows it there, but where it
sends to has to make sense.
-/
namespace MetricArchive

structure Reply where
  status : Int
  headers : List (String × String)
  body : List UInt8
  deriving DecidableEq, Repr

inductive HeaderFault where
  /-- A value of another kind. -/
  | notText (kind : String)
  /-- The characters that are not ASCII from the first on, as many as follow each other, and where
  they start. -/
  | notPlain (run : List Char) (position : Nat)
  deriving DecidableEq, Repr

def HeaderFault.message : HeaderFault → String
  | .notText kind => s!"Header value must be str or bytes, not <class '{kind}'>"
  | .notPlain run position =>
    let place := match run with
      | [c] => "character '" ++ String.ofList (Text.escapeNumber c) ++ s!"' in position {position}"
      | _ => s!"characters in position {position}-{position + run.length - 1}"
    "'ascii' codec can't encode " ++ place ++ ": ordinal not in range(128)"

namespace Reply

def isPlain (c : Char) : Bool := c.toNat < 128

def checkPlain (s : String) : Except HeaderFault Unit :=
  let plain := s.toList.takeWhile isPlain
  match s.toList.drop plain.length with
  | [] => .ok ()
  | rest => .error (.notPlain (rest.takeWhile (!isPlain ·)) plain.length)

def readHeader (name : String) (value : ConfigValue) : Except HeaderFault (String × String) := do
  checkPlain name
  match value with
  | .text s => (checkPlain s).map fun _ => (name, s)
  | v => .error (.notText v.kindName)

def ofGiven (status : Int) (headers : List (String × ConfigValue)) (body : List UInt8) :
    Except HeaderFault Reply :=
  (headers.mapM fun (name, value) => readHeader name value).map fun headers =>
    ⟨status, headers, body⟩

/-- The values of a header. Names are the same in small and capital letters. -/
def values (r : Reply) (name : String) : List String :=
  (r.headers.filter fun (n, _) => n.toLower == name).map (·.2)

inductive Encoding where
  | gzip
  | deflate
  deriving DecidableEq, Repr

def Encoding.ofName? : String → Option Encoding
  | "gzip" => some .gzip
  | "deflate" => some .deflate
  | _ => none

/-- What is called deflated may lack its frame. -/
def Encoding.decode : Encoding → List UInt8 → Except Deflate.Fault (List UInt8)
  | .gzip, bytes => Deflate.decompress .long bytes
  | .deflate, bytes =>
    match Deflate.decompress .short bytes with
    | .ok content => .ok content
    | .error _ => Deflate.decompress .bare bytes

/-- The ways in which the body was compressed, one after the other. Names that say nothing are
passed over. -/
def encodings (r : Reply) : List Encoding :=
  ((r.values "content-encoding").flatMap fun v => Text.split ',' v.toList).filterMap fun cs =>
    Encoding.ofName? (String.ofList (Text.trim cs)).toLower

/-- The body as it was before. The last compression is undone first. -/
def content (r : Reply) : Except Deflate.Fault (List UInt8) :=
  r.encodings.reverse.foldlM (fun bytes e => e.decode bytes) r.body

def isSuccess (r : Reply) : Bool := 200 ≤ r.status && r.status ≤ 299

def location? (r : Reply) : Option String :=
  let given := r.values "location"
  if [301, 302, 303, 307, 308].contains r.status && !given.isEmpty then
    some (", ".intercalate given)
  else none

end Reply

end MetricArchive
