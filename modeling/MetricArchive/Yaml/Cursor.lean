/-!
# A place in a YAML text

The characters that are left, and where they begin: line and column decide what belongs together.
-/
namespace MetricArchive.Yaml

/-- A line feed, a carriage return, a next line, a line separator or a paragraph separator. -/
def isBreak (c : Char) : Bool :=
  c == '\n' || c == '\r' || c == '\x85' || c == '\u2028' || c == '\u2029'

def isSpaceOrTab (c : Char) : Bool := c == ' ' || c == '\t'

/-- Whether a text begins with a blank, with a break, or not at all. -/
def endsWord : List Char → Bool
  | [] => true
  | c :: _ => isSpaceOrTab c || isBreak c

/-- Whether a text begins with a break or not at all. -/
def endsLine : List Char → Bool
  | [] => true
  | c :: _ => isBreak c

/-- Three hyphens, or three dots, that stand alone. -/
def isMarker (mark : Char) : List Char → Bool
  | a :: b :: c :: rest => a == mark && b == mark && c == mark && endsWord rest
  | _ => false

/-- The mark of a document's start or end; where a line begins it ends any scalar. -/
def isAnyMarker (cs : List Char) : Bool := isMarker '-' cs || isMarker '.' cs

structure Cursor where
  rest : List Char
  line : Nat
  column : Nat
  /-- The number of characters passed. -/
  offset : Nat
  deriving DecidableEq, Repr

namespace Cursor

def start (cs : List Char) : Cursor := ⟨cs, 0, 0, 0⟩

/-- Passes one character; a byte order mark takes no column. -/
def step (c : Cursor) : Cursor :=
  match c.rest with
  | [] => c
  | x :: rest =>
    if isBreak x then ⟨rest, c.line + 1, 0, c.offset + 1⟩
    else ⟨rest, c.line, if x == '\uFEFF' then c.column else c.column + 1, c.offset + 1⟩

def advance (c : Cursor) : Nat → Cursor
  | 0 => c
  | n + 1 => c.step.advance n

def isAt (c : Cursor) (p : Char → Bool) : Bool := c.rest.head?.any p

/-- The characters up to the first that fails a test, and the place after them. -/
def takeWhile (c : Cursor) (p : Char → Bool) : List Char × Cursor :=
  let run := c.rest.takeWhile p
  (run, c.advance run.length)

def skipWhile (c : Cursor) (p : Char → Bool) : Cursor := (c.takeWhile p).2

/-- Passes blanks while the column is below a bound. -/
def skipIndent (c : Cursor) (bound : Int) : Cursor :=
  let room := (bound - c.column).toNat
  c.advance ((c.rest.take room).takeWhile (· == ' ')).length

/-- What a break stands for: separators for themselves, any other for a line feed. -/
def breakText (c : Char) : Char := if c == '\u2028' || c == '\u2029' then c else '\n'

def takeBreak? (c : Cursor) : Option (Char × Cursor) :=
  match c.rest with
  | x :: _ => if isBreak x then some (breakText x, c.step) else none
  | [] => none

end Cursor

end MetricArchive.Yaml
