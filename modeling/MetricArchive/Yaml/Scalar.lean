import MetricArchive.Url.Percent
import MetricArchive.Yaml.Cursor
import MetricArchive.Yaml.Fault

/-!
# The text of a scalar

A scalar is written plain, between single or double quotes, or as a block of lines. Where a line is
broken inside a scalar, a single break becomes a blank and each further one a line feed; a block
keeps its breaks unless it is folded. The numbers that bound the loops are the characters left.
-/
namespace MetricArchive.Yaml

/-- What breaks inside a scalar become: the first, then the others. -/
def foldBreaks (first : Char) (others : List Char) : List Char :=
  if first != '\n' then first :: others else if others.isEmpty then [' '] else others

/-- Breaks and the blanks among them, up to anything else or a marker at the start of a line. -/
def plainBreaks : Nat → Cursor → List Char × Bool × Cursor
  | 0, c => ([], false, c)
  | n + 1, c =>
    if c.isAt (· == ' ') then plainBreaks n c.step
    else
      match c.takeBreak? with
      | none => ([], false, c)
      | some (b, next) =>
        if isAnyMarker next.rest then ([b], true, next)
        else
          let (breaks, marker, last) := plainBreaks n next
          (b :: breaks, marker, last)

/-- What stands between two parts of a plain scalar, and whether a line was broken. -/
def plainGap (c : Cursor) : List Char × Bool × Cursor :=
  let (blanks, c) := c.takeWhile (· == ' ')
  match c.takeBreak? with
  | none => (blanks, false, c)
  | some (first, next) =>
    if isAnyMarker next.rest then ([], true, next)
    else
      let (others, marker, last) := plainBreaks next.rest.length next
      (if marker then [] else foldBreaks first others, true, last)

/-- Whether a plain scalar ends before a text; inside brackets more characters end it. -/
def endsPlain (flow : Bool) : List Char → Bool
  | [] => true
  | c :: rest =>
    isSpaceOrTab c || isBreak c ||
      (c == ':' && (endsWord rest || (flow && rest.head?.any [',', '[', ']', '{', '}'].contains))) ||
      (flow && [',', '?', '[', ']', '{', '}'].contains c)

def plainRun (flow : Bool) : List Char → List Char
  | [] => []
  | c :: rest => if endsPlain flow (c :: rest) then [] else c :: plainRun flow rest

/-- A plain scalar from a place on, `gap` being what stands before it: its text, whether a line was
broken after it, and the place after it. It needs to be indented to a column, except in brackets. -/
def plainFrom (flow : Bool) (indent : Int) :
    Nat → (gap : List Char) → (broken : Bool) → Cursor → List Char × Bool × Cursor
  | 0, _, broken, c => ([], broken, c)
  | n + 1, gap, broken, c =>
    let run := plainRun flow c.rest
    if c.isAt (· == '#') || run.isEmpty then ([], broken, c)
    else
      let (next, broken, c) := plainGap (c.advance run.length)
      if next.isEmpty || c.isAt (· == '#') || (!flow && c.column < indent) then
        (gap ++ run, broken, c)
      else
        let (text, broken, c) := plainFrom flow indent n next broken c
        (gap ++ run ++ text, broken, c)

def readPlain (flow : Bool) (indent : Int) (c : Cursor) : List Char × Bool × Cursor :=
  plainFrom flow indent (c.rest.length + 1) [] false c

/-- What a backslash and a character stand for between double quotes. -/
def escapes : List (Char × Char) :=
  [('0', '\x00'), ('a', '\x07'), ('b', '\x08'), ('t', '\t'), ('\t', '\t'), ('n', '\n'),
    ('v', '\x0b'), ('f', '\x0c'), ('r', '\r'), ('e', '\x1b'), (' ', ' '), ('"', '"'), ('\\', '\\'),
    ('/', '/'), ('N', '\x85'), ('_', '\xa0'), ('L', '\u2028'), ('P', '\u2029')]

/-- The number of hexadecimal digits that a letter after a backslash announces. -/
def codeLength? (c : Char) : Option Nat :=
  if c == 'x' then some 2 else if c == 'u' then some 4 else if c == 'U' then some 8 else none

def lastCode : Nat := 0x10ffff

/-- The first code that is not even looked up. -/
def codeBound : Nat := 0x80000000

/-- The number that hexadecimal digits write, if it is the code of a character or of half of one. -/
def readCode (digits : List Char) : Except Fault Nat :=
  if !digits.all fun d => (Url.hexDigit? d).isSome then .error .malformed
  else
    let code := digits.foldl (fun n d => 16 * n + (Url.hexDigit? d).getD 0) 0
    if codeBound ≤ code then .error .hugeCode
    else if lastCode < code then .error (.impossible "chr() arg not in range(0x110000)")
    else .ok code

def isUpperHalf (code : Nat) : Bool := 0xd800 ≤ code && code ≤ 0xdbff

def isLowerHalf (code : Nat) : Bool := 0xdc00 ≤ code && code ≤ 0xdfff

/-- The character whose halves have two codes. -/
def joinHalves (upper lower : Nat) : Char :=
  Char.ofNat (0x10000 + (upper - 0xd800) * 0x400 + (lower - 0xdc00))

/-- The code that a backslash begins. -/
def readEscapedCode? (cs : List Char) : Option (Nat × Nat) :=
  match cs with
  | '\\' :: e :: digits =>
    (codeLength? e).bind fun n =>
      if digits.length < n then none else (readCode (digits.take n)).toOption.map (·, n + 2)
  | _ => none

/-- The character of a code. Half of a character needs the other half right behind it. -/
def finishCode (code : Nat) (c : Cursor) : Except Fault (List Char × Cursor) :=
  if isUpperHalf code then
    match readEscapedCode? c.rest with
    | some (lower, length) =>
      if isLowerHalf lower then .ok ([joinHalves code lower], c.advance length)
      else .error .malformed
    | none => .error .malformed
  else if isLowerHalf code then .error .malformed
  else .ok ([Char.ofNat code], c)

/-- Breaks inside quotes with the blanks around them; a marker may not stand there. -/
def quotedBreaks : Nat → Cursor → Except Fault (List Char × Cursor)
  | 0, _ => .error .malformed
  | n + 1, c =>
    if isAnyMarker c.rest then .error .malformed
    else
      let c := c.skipWhile isSpaceOrTab
      match c.takeBreak? with
      | none => .ok ([], c)
      | some (b, c) => (quotedBreaks n c).map fun (breaks, c) => (b :: breaks, c)

/-- Blanks or breaks inside quotes. -/
def quotedGap (c : Cursor) : Except Fault (List Char × Cursor) :=
  let (blanks, c) := c.takeWhile isSpaceOrTab
  match c.takeBreak? with
  | none => if c.rest.isEmpty then .error .malformed else .ok (blanks, c)
  | some (first, c) =>
    (quotedBreaks (c.rest.length + 1) c).map fun (others, c) => (foldBreaks first others, c)

def readEscape (c : Cursor) : Except Fault (List Char × Cursor) :=
  match c.rest with
  | [] => .error .malformed
  | e :: digits =>
    match escapes.lookup e, codeLength? e, c.takeBreak? with
    | some x, _, _ => .ok ([x], c.step)
    | none, some n, _ =>
      if digits.length < n then .error .malformed
      else (readCode (digits.take n)).bind fun code => finishCode code (c.advance (n + 1))
    | none, none, some (_, next) => quotedBreaks (next.rest.length + 1) next
    | none, none, none => .error .malformed

/-- A quoted scalar after its opening quote. -/
def quotedFrom (double : Bool) : Nat → Cursor → Except Fault (List Char × Cursor)
  | 0, _ => .error .malformed
  | n + 1, c =>
    let go := fun (text : List Char) (c : Cursor) =>
      (quotedFrom double n c).map fun (more, c) => (text ++ more, c)
    match c.rest with
    | [] => .error .malformed
    | x :: rest =>
      if !double && x == '\'' then
        if rest.head? == some '\'' then go ['\''] (c.advance 2) else .ok ([], c.step)
      else if double && x == '"' then .ok ([], c.step)
      else if double && x == '\\' then
        match readEscape c.step with
        | .error f => .error f
        | .ok (text, c) => go text c
      else if isSpaceOrTab x || isBreak x then
        match quotedGap c with
        | .error f => .error f
        | .ok (text, c) => go text c
      else go [x] c.step

def readQuoted (double : Bool) (c : Cursor) : Except Fault (List Char × Cursor) :=
  quotedFrom double (c.rest.length + 1) c.step

inductive Chomping where
  | strip
  | clip
  | keep
  deriving DecidableEq, Repr

def chomping? (c : Char) : Option Chomping :=
  if c == '+' then some .keep else if c == '-' then some .strip else none

def blockDigit? (c : Char) : Option Nat :=
  if '0' ≤ c && c ≤ '9' then some (c.toNat - 48) else none

/-- The head of a block: how it is chomped and its indentation if it is given. -/
def readBlockHead (c : Cursor) : Option (Chomping × Option Nat × Cursor) :=
  let sign := fun (c : Cursor) => match c.rest.head?.bind chomping? with
    | some s => (some s, c.step)
    | none => (none, c)
  let digit := fun (c : Cursor) => match c.rest.head?.bind blockDigit? with
    | some d => (some d, c.step)
    | none => (none, c)
  let (before, c) := sign c
  let (increment, c) := digit c
  let (after, c) := if before.isNone && increment.isSome then sign c else (none, c)
  let blank := c.isAt (· == ' ') || endsLine c.rest
  let c := c.skipWhile (· == ' ')
  let c := if c.isAt (· == '#') then c.skipWhile (!isBreak ·) else c
  if increment == some 0 || !blank || !endsLine c.rest then none
  else some ((before <|> after).getD .clip, increment, (c.takeBreak?.map (·.2)).getD c)

/-- Empty lines at the start of a block, and the column of the widest indentation seen. -/
def blockLead : Nat → (widest : Nat) → Cursor → List Char × Nat × Cursor
  | 0, widest, c => ([], widest, c)
  | n + 1, widest, c =>
    if c.isAt (· == ' ') then blockLead n (max widest c.step.column) c.step
    else
      match c.takeBreak? with
      | none => ([], widest, c)
      | some (b, next) =>
        let (breaks, widest, last) := blockLead n widest next
        (b :: breaks, widest, last)

/-- Empty lines inside a block. -/
def blockBreaks (indent : Int) : Nat → Cursor → List Char × Cursor
  | 0, c => ([], c)
  | n + 1, c =>
    let c := c.skipIndent indent
    match c.takeBreak? with
    | none => ([], c)
    | some (b, next) =>
      let (breaks, last) := blockBreaks indent n next
      (b :: breaks, last)

/-- What joins two lines of a block: in a folded block a single break between lines that do not
begin with a blank becomes a blank. -/
def joinLines (folded : Bool) (first next : Option Char) (lineBreak : List Char)
    (breaks : List Char) : List Char :=
  if folded && lineBreak == ['\n'] && !first.any isSpaceOrTab && !next.any isSpaceOrTab then
    if breaks.isEmpty then [' '] else []
  else lineBreak

/-- The lines of a block, `breaks` being the empty lines before them: their text, the break after
the last one and the empty lines that follow. -/
def blockLines (folded : Bool) (indent : Int) :
    Nat → (breaks : List Char) → Cursor → List Char × List Char × List Char × Cursor
  | 0, breaks, c => ([], [], breaks, c)
  | n + 1, breaks, c =>
    if (c.column : Int) != indent || c.rest.isEmpty then ([], [], breaks, c)
    else
      let first := c.rest.head?
      let (line, c) := c.takeWhile (!isBreak ·)
      let (lineBreak, c) := match c.takeBreak? with
        | some (b, c) => ([b], c)
        | none => ([], c)
      let (more, c) := blockBreaks indent (c.rest.length + 1) c
      if (c.column : Int) == indent && !c.rest.isEmpty then
        let join := joinLines folded first c.rest.head? lineBreak more
        let (text, last, after, c) := blockLines folded indent n more c
        (breaks ++ line ++ join ++ text, last, after, c)
      else (breaks ++ line, lineBreak, more, c)

/-- A block from its indicator on, inside an indentation. -/
def readBlock (folded : Bool) (outer : Int) (c : Cursor) : Option (List Char × Cursor) :=
  (readBlockHead c.step).map fun (chomping, increment, c) =>
    let least := max 1 (outer + 1)
    let (indent, breaks, c) := match increment with
      | some n =>
        let indent := least + n - 1
        let (breaks, c) := blockBreaks indent (c.rest.length + 1) c
        (indent, breaks, c)
      | none =>
        let (breaks, widest, c) := blockLead (c.rest.length + 1) 0 c
        (max least widest, breaks, c)
    let (text, last, after, c) := blockLines folded indent (c.rest.length + 1) breaks c
    let tail := match chomping with
      | .strip => []
      | .clip => last
      | .keep => last ++ after
    (text ++ tail, c)

end MetricArchive.Yaml
