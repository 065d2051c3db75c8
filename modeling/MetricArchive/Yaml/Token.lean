import MetricArchive.Text.Integer
import MetricArchive.Url.Address
import MetricArchive.Yaml.Scalar

/-!
# Tokens

Indentation opens and closes blocks, and outside brackets it decides where a key may stand. A colon
makes a key of what stands before it, if that is on the same line and not too long. Since this is
known only when the colon is read, a place where a key may begin is left open and filled in when the
tokens are laid out.
-/
namespace MetricArchive.Yaml

inductive Token where
  /-- The version of the notation, in two numbers. -/
  | version (major minor : Nat)
  /-- A handle for tags and what it stands for. -/
  | tagHandle (handle text : String)
  /-- A directive that is passed over. -/
  | otherDirective
  | documentStart
  | documentEnd
  | sequenceStart
  | mappingStart
  | blockEnd
  | flowSequenceStart
  | flowSequenceEnd
  | flowMappingStart
  | flowMappingEnd
  /-- A hyphen. -/
  | item
  /-- A comma. -/
  | separator
  | key
  | value
  | alias (name : String)
  | anchor (name : String)
  /-- A tag with its handle, which is missing for a tag written out. -/
  | tag (handle : Option String) (suffix : String)
  | scalar (text : String) (plain : Bool)
  deriving DecidableEq, Repr

/-- A token, or a place where a key may begin, with a number of its own. -/
inductive Slot where
  | token (t : Token)
  | mark (n : Nat)
  deriving DecidableEq, Repr

/-- A key that may have begun: outside brackets and at the margin of its block it has to be one. -/
structure PossibleKey where
  mark : Nat
  required : Bool
  line : Nat
  column : Nat
  offset : Nat
  deriving DecidableEq, Repr

structure Scanner where
  cursor : Cursor
  /-- The last slot first. -/
  slots : List Slot
  marks : Nat
  /-- The marks that are keys, each with whether a block mapping begins there. -/
  keys : List (Nat × Bool)
  indent : Int
  /-- The indentations outside the present one. -/
  indents : List Int
  keyAllowed : Bool
  possible : Option PossibleKey
  /-- The keys that may have begun outside the present brackets, one for each bracket. -/
  outer : List (Option PossibleKey)
  deriving Repr

namespace Scanner

def start (cs : List Char) : Scanner := ⟨.start cs, [], 0, [], -1, [], true, none, []⟩

def inFlow (s : Scanner) : Bool := !s.outer.isEmpty

def put (s : Scanner) (t : Token) : Scanner := { s with slots := .token t :: s.slots }

def step (s : Scanner) (n : Nat) : Scanner := { s with cursor := s.cursor.advance n }

/-- Passes blanks, comments and breaks; outside brackets a key may stand on a new line. -/
def skip : Nat → Scanner → Scanner
  | 0, s => s
  | n + 1, s =>
    let c := s.cursor.skipWhile (· == ' ')
    let c := if c.isAt (· == '#') then c.skipWhile (!isBreak ·) else c
    match c.takeBreak? with
    | none => { s with cursor := c }
    | some (_, c) => skip n { s with cursor := c, keyAllowed := s.keyAllowed || !s.inFlow }

def keyLength : Nat := 1024

/-- A key ends on its own line and within a length; if it has to be a key by then, it is too late. -/
def checkKey (c : Cursor) : Option PossibleKey → Except Fault (Option PossibleKey)
  | none => .ok none
  | some k =>
    if k.line != c.line || keyLength < c.offset - k.offset then
      if k.required then .error .malformed else .ok none
    else .ok (some k)

def dropStale (s : Scanner) : Except Fault Scanner := do
  let possible ← checkKey s.cursor s.possible
  let outer ← s.outer.mapM (checkKey s.cursor)
  return { s with possible, outer }

/-- Closes the blocks that are indented further than a column. -/
def unwindFrom : List Int → Scanner → Int → Scanner
  | [], s, _ => s
  | outer :: rest, s, column =>
    if column < s.indent then
      unwindFrom rest { s.put .blockEnd with indent := outer, indents := rest } column
    else s

def unwind (s : Scanner) (column : Int) : Scanner :=
  if s.inFlow then s else unwindFrom s.indents s column

/-- Begins a block if a column is further in. -/
def indentTo (s : Scanner) (column : Nat) : Bool × Scanner :=
  if s.indent < column then
    (true, { s with indent := column, indents := s.indent :: s.indents })
  else (false, s)

/-- Forgets the key that may have begun, unless it has to be one. -/
def dropKey (s : Scanner) : Except Fault Scanner :=
  if s.possible.any (·.required) then .error .malformed else .ok { s with possible := none }

def saveKey (s : Scanner) : Except Fault Scanner :=
  if s.keyAllowed then
    s.dropKey.map fun s =>
      let c := s.cursor
      let required := !s.inFlow && s.indent == c.column
      { s with
        slots := .mark s.marks :: s.slots
        marks := s.marks + 1
        possible := some ⟨s.marks, required, c.line, c.column, c.offset⟩ }
  else .ok s

/-- A document begins or ends: all blocks are closed. -/
def endDocument (s : Scanner) : Except Fault Scanner :=
  (s.unwind (-1)).dropKey.map fun s => { s with keyAllowed := false }

def isNameCharacter (c : Char) : Bool := Url.isAsciiLetterOrDigit c || c == '-' || c == '_'

/-- Whether a text begins with a space, with a break, or not at all. -/
def endsPart (cs : List Char) : Bool := endsLine cs || cs.head? == some ' '

def isTagCharacter (c : Char) : Bool :=
  isNameCharacter c || ";/?:@&=+$,.!~*'()[]%".contains c

/-- The text of a tag, its encoded characters decoded; a percent sign alone is an error. -/
def readTagText (c : Cursor) : Except Fault (String × Cursor) := do
  let (text, c) := c.takeWhile isTagCharacter
  if text.isEmpty then throw .malformed
  let decoded ← require (Url.decodeStrict? text)
  return (String.ofList decoded, c)

/-- The handle of a tag: nothing, or a name, between exclamation marks; or one mark alone. -/
def readHandle (c : Cursor) : Except Fault (String × Cursor) :=
  match c.rest with
  | '!' :: ' ' :: _ => .ok ("!", c.step)
  | '!' :: rest =>
    let name := rest.takeWhile isNameCharacter
    if (rest.drop name.length).head? == some '!' then
      .ok (String.ofList ('!' :: name ++ ['!']), c.advance (name.length + 2))
    else .error .malformed
  | _ => .error .malformed

def readNumber (c : Cursor) : Except Fault (Nat × Cursor) := do
  let (digits, c) := c.takeWhile Url.isAsciiDigit
  if digits.isEmpty then throw .malformed
  match Text.readWhole (String.ofList digits) with
  | .ok n => return (n.toNat, c)
  | .error f => throw (.impossible f.message)

/-- What a directive says after its name. -/
def readDirective (name : String) (c : Cursor) : Except Fault (Token × Cursor) := do
  if name == "YAML" then
    let (major, c) ← readNumber (c.skipWhile (· == ' '))
    if !c.isAt (· == '.') then throw .malformed
    let (minor, c) ← readNumber c.step
    if endsPart c.rest then return (.version major minor, c) else throw .malformed
  else if name == "TAG" then
    let (handle, c) ← readHandle (c.skipWhile (· == ' '))
    if !c.isAt (· == ' ') then throw .malformed
    let (text, c) ← readTagText (c.skipWhile (· == ' '))
    if endsPart c.rest then return (.tagHandle handle text, c) else throw .malformed
  else return (.otherDirective, c.skipWhile (!isBreak ·))

/-- A directive has a line of its own, but for a comment. -/
def directive (s : Scanner) : Except Fault Scanner := do
  let s ← s.endDocument
  let (name, c) := s.cursor.step.takeWhile isNameCharacter
  if name.isEmpty || !endsPart c.rest then throw .malformed
  let (t, c) ← readDirective (String.ofList name) c
  let c := c.skipWhile (· == ' ')
  let c := if c.isAt (· == '#') then c.skipWhile (!isBreak ·) else c
  if endsLine c.rest then return { s.put t with cursor := c } else throw .malformed

def marker (s : Scanner) (t : Token) : Except Fault Scanner :=
  s.endDocument.map fun s => (s.put t).step 3

def openFlow (s : Scanner) (t : Token) : Except Fault Scanner :=
  s.saveKey.map fun s =>
    ({ s with keyAllowed := true, possible := none, outer := s.possible :: s.outer }.put t).step 1

def closeFlow (s : Scanner) (t : Token) : Except Fault Scanner :=
  match s.outer with
  | [] => .error .malformed
  | possible :: outer =>
    s.dropKey.map fun s => ({ s with keyAllowed := false, possible, outer }.put t).step 1

def separator (s : Scanner) : Except Fault Scanner :=
  s.dropKey.map fun s => ({ s with keyAllowed := true }.put .separator).step 1

/-- Begins a block at the present column where a key may stand. -/
def openBlock (s : Scanner) (t : Token) : Except Fault Scanner :=
  if s.inFlow then .ok s
  else if !s.keyAllowed then .error .malformed
  else
    match s.indentTo s.cursor.column with
    | (true, s) => .ok (s.put t)
    | (false, s) => .ok s

def item (s : Scanner) : Except Fault Scanner := do
  let s ← s.openBlock .sequenceStart
  let s ← { s with keyAllowed := true }.dropKey
  return (s.put .item).step 1

def explicitKey (s : Scanner) : Except Fault Scanner := do
  let s ← s.openBlock .mappingStart
  let s ← { s with keyAllowed := !s.inFlow }.dropKey
  return (s.put .key).step 1

/-- A colon makes a key of what may be one, or follows an explicit key. -/
def value (s : Scanner) : Except Fault Scanner :=
  match s.possible with
  | some k =>
    let (opens, s) := if s.inFlow then (false, s) else s.indentTo k.column
    let s := { s with possible := none, keyAllowed := false, keys := (k.mark, opens) :: s.keys }
    .ok ((s.put .value).step 1)
  | none => do
    let s ← s.openBlock .mappingStart
    let s ← { s with keyAllowed := !s.inFlow }.dropKey
    return (s.put .value).step 1

/-- What may follow the name of an anchor. -/
def endsName (cs : List Char) : Bool :=
  endsWord cs || cs.head?.any ['?', ':', ',', ']', '}', '%', '@', '\x60'].contains

def named (s : Scanner) (make : String → Token) : Except Fault Scanner :=
  s.saveKey.bind fun s =>
    let (name, c) := s.cursor.step.takeWhile isNameCharacter
    if name.isEmpty || !endsName c.rest then .error .malformed
    else .ok { s.put (make (String.ofList name)) with cursor := c, keyAllowed := false }

/-- A tag: written out between angle brackets, a lone mark, or a handle with a text. -/
def readTag (c : Cursor) : Except Fault (Token × Cursor) := do
  match c.rest.drop 1 with
  | '<' :: _ =>
    let (text, c) ← readTagText (c.advance 2)
    if c.isAt (· == '>') then return (.tag none text, c.step) else throw .malformed
  | rest =>
    if endsWord rest then return (.tag none "!", c.step)
    let (handle, c) ←
      if (rest.takeWhile fun x => x != ' ' && !isBreak x).contains '!' then readHandle c
      else pure ("!", c.step)
    let (text, c) ← readTagText c
    return (.tag (some handle) text, c)

def tag (s : Scanner) : Except Fault Scanner := do
  let s ← s.saveKey
  let (t, c) ← readTag s.cursor
  if endsPart c.rest then return { s.put t with cursor := c, keyAllowed := false }
  else throw .malformed

def quoted (s : Scanner) (double : Bool) : Except Fault Scanner := do
  let s ← s.saveKey
  let (text, c) ← readQuoted double s.cursor
  return { s.put (.scalar (String.ofList text) false) with cursor := c, keyAllowed := false }

def block (s : Scanner) (folded : Bool) : Except Fault Scanner := do
  let s ← { s with keyAllowed := true }.dropKey
  let (text, c) ← require (readBlock folded s.indent s.cursor)
  return { s.put (.scalar (String.ofList text) false) with cursor := c }

/-- Whether a plain scalar can begin: most punctuation cannot begin one. -/
def beginsPlain (flow : Bool) (c : Char) (rest : List Char) : Bool :=
  !(isSpaceOrTab c || isBreak c || "-?:,[]\x7b\x7d#&*!|>'\"%@\x60".contains c) ||
    (!endsWord rest && (c == '-' || (!flow && (c == '?' || c == ':'))))

def plain (s : Scanner) : Except Fault Scanner :=
  s.saveKey.map fun s =>
    let (text, broken, c) := readPlain s.inFlow (s.indent + 1) s.cursor
    { s.put (.scalar (String.ofList text) true) with cursor := c, keyAllowed := broken }

/-- Reads the token that begins with a character. -/
def fetch (s : Scanner) (c : Char) (rest : List Char) : Except Fault Scanner :=
  let atMargin := s.cursor.column == 0
  let alone := s.inFlow || endsWord rest
  if c == '%' && atMargin then s.directive
  else if atMargin && isMarker '-' (c :: rest) then s.marker .documentStart
  else if atMargin && isMarker '.' (c :: rest) then s.marker .documentEnd
  else if c == '[' then s.openFlow .flowSequenceStart
  else if c == '\x7b' then s.openFlow .flowMappingStart
  else if c == ']' then s.closeFlow .flowSequenceEnd
  else if c == '\x7d' then s.closeFlow .flowMappingEnd
  else if c == ',' then s.separator
  else if c == '-' && endsWord rest then s.item
  else if c == '?' && alone then s.explicitKey
  else if c == ':' && alone then s.value
  else if c == '*' then s.named .alias
  else if c == '&' then s.named .anchor
  else if c == '!' then s.tag
  else if c == '|' && !s.inFlow then s.block false
  else if c == '>' && !s.inFlow then s.block true
  else if c == '\'' then s.quoted false
  else if c == '"' then s.quoted true
  else if beginsPlain s.inFlow c rest then s.plain
  else .error .malformed

/-- Reads tokens to the end of the text, which closes all blocks. -/
def scan : Nat → Scanner → Except Fault Scanner
  | 0, _ => .error .malformed
  | n + 1, s => do
    let s ← (s.skip (s.cursor.rest.length + 1)).dropStale
    let s := s.unwind s.cursor.column
    match s.cursor.rest with
    | [] => (s.unwind (-1)).dropKey
    | c :: rest => scan n (← s.fetch c rest)

/-- The tokens in order, with the keys where they begin. -/
def layOut (s : Scanner) : List Token :=
  s.slots.reverse.flatMap fun
    | .token t => [t]
    | .mark n =>
      match s.keys.lookup n with
      | none => []
      | some opens => if opens then [.mappingStart, .key] else [.key]

end Scanner

/-- Characters that may stand in a text. -/
def isAllowed (c : Char) : Bool :=
  c == '\t' || c == '\n' || c == '\r' || (' ' ≤ c && c ≤ '~') || c == '\x85' ||
    ('\xa0' ≤ c && c != '\ufffe' && c != '\uffff')

def tokens (cs : List Char) : Except Fault (List Token) :=
  if cs.all isAllowed then
    let body := if cs.head? == some '\uFEFF' then cs.drop 1 else cs
    ((Scanner.start body).scan (body.length + 2)).map (·.layOut)
  else .error .malformed

end MetricArchive.Yaml
