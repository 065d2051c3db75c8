import MetricArchive.Url.Address
import MetricArchive.Yaml.Cursor

/-!
# Tags

A tag says what a node is to become. A plain scalar without a tag has one by its text: nothing, a
yes or no, a number, a date or time, a mark that merges mappings, or else text. Numbers may be written in groups with underscores, in other bases, and in base sixty with
colons; a fraction needs a point, and its exponent a sign.
-/
namespace MetricArchive.Yaml

inductive Tag where
  | null
  | flag
  | whole
  | number
  | bytes
  | moment
  | text
  | sequence
  | mapping
  /-- A sequence of mappings with a single entry each, whose order counts. -/
  | pairs
  | set
  | merge
  | default
  | unknown
  deriving DecidableEq, Repr

namespace Tag

def core : String := "tag:yaml.org,2002:"

def names : List (String × Tag) :=
  [("null", null), ("bool", flag), ("int", whole), ("float", number), ("binary", bytes),
    ("timestamp", moment), ("str", text), ("seq", sequence), ("map", mapping), ("omap", pairs),
    ("pairs", pairs), ("set", set), ("merge", merge), ("value", default)]

def ofName (name : String) : Tag :=
  (names.findSome? fun (n, t) => if core ++ n == name then some t else none).getD unknown

end Tag

open Url (isAsciiDigit)

def trueWords : List String :=
  ["yes", "Yes", "YES", "true", "True", "TRUE", "on", "On", "ON"]

def falseWords : List String :=
  ["no", "No", "NO", "false", "False", "FALSE", "off", "Off", "OFF"]

def nullWords : List String := ["", "~", "null", "Null", "NULL"]

def isGroupedDigit (c : Char) : Bool := isAsciiDigit c || c == '_'

def dropSign : List Char → List Char
  | '-' :: rest => rest
  | '+' :: rest => rest
  | cs => cs

/-- Further digits of a number in base sixty, at least one group of them, up to the end or a point;
gives what follows. -/
def sixtieths? : List Char → Option (List Char)
  | ':' :: a :: b :: rest =>
    if isAsciiDigit a && a ≤ '5' && isAsciiDigit b then
      if rest.head? == some ':' then sixtieths? rest else some rest
    else if isAsciiDigit a then
      if b == ':' then sixtieths? (b :: rest) else some (b :: rest)
    else none
  | ':' :: a :: [] => if isAsciiDigit a then some [] else none
  | _ => none

def isNonEmpty (p : Char → Bool) (cs : List Char) : Bool := !cs.isEmpty && cs.all p

def isWhole (cs : List Char) : Bool :=
  match dropSign cs with
  | ['0'] => true
  | '0' :: 'b' :: digits => isNonEmpty (fun c => c == '0' || c == '1' || c == '_') digits
  | '0' :: 'x' :: digits => isNonEmpty (fun c => (Url.hexDigit? c).isSome || c == '_') digits
  | '0' :: digits => isNonEmpty (fun c => ('0' ≤ c && c ≤ '7') || c == '_') digits
  | c :: rest =>
    isAsciiDigit c &&
      match rest.dropWhile isGroupedDigit with
      | [] => true
      | tail => sixtieths? tail == some []
  | [] => false

/-- An exponent with its sign, or nothing. -/
def isSignedExponent : List Char → Bool
  | [] => true
  | e :: sign :: digits =>
    (e == 'e' || e == 'E') && (sign == '-' || sign == '+') && isNonEmpty isAsciiDigit digits
  | _ => false

/-- What may follow the digits before a point. -/
def isFractionTail (exponent : Bool) : List Char → Bool
  | '.' :: rest =>
    let tail := rest.dropWhile isGroupedDigit
    if exponent then isSignedExponent tail else tail.isEmpty
  | _ => false

def isInfinity (cs : List Char) : Bool :=
  cs == ['.', 'i', 'n', 'f'] || cs == ['.', 'I', 'n', 'f'] || cs == ['.', 'I', 'N', 'F']

def isNotANumber (cs : List Char) : Bool :=
  cs == ['.', 'n', 'a', 'n'] || cs == ['.', 'N', 'a', 'N'] || cs == ['.', 'N', 'A', 'N']

def isNumber (cs : List Char) : Bool :=
  let body := dropSign cs
  let signed := body.length < cs.length
  isInfinity body || isNotANumber cs ||
    match body with
    | '.' :: c :: rest =>
      !signed && isAsciiDigit c && isSignedExponent (rest.dropWhile isGroupedDigit)
    | c :: rest =>
      let tail := rest.dropWhile isGroupedDigit
      isAsciiDigit c && (isFractionTail true tail || (sixtieths? tail).any (isFractionTail false))
    | [] => false

/-- The parts of a date, or of a date with a time of day, as written. -/
structure MomentParts where
  year : List Char
  month : List Char
  day : List Char
  /-- Hour, minute, second and fraction. -/
  clock : Option (List Char × List Char × List Char × List Char)
  /-- Whether the offset is negative, its hours and its minutes. -/
  offset : Option (Bool × List Char × List Char)
  deriving DecidableEq, Repr

/-- One or two digits. -/
def takeShort? (cs : List Char) : Option (List Char × List Char) :=
  let digits := (cs.take 2).takeWhile isAsciiDigit
  if digits.isEmpty then none else some (digits, cs.drop digits.length)

def takeDigits? (n : Nat) (cs : List Char) : Option (List Char × List Char) :=
  let digits := cs.take n
  if digits.length == n && digits.all isAsciiDigit then some (digits, cs.drop n) else none

def takeMark? (mark : Char) : List Char → Option (List Char)
  | [] => none
  | c :: rest => if c == mark then some rest else none

/-- An offset from universal time to the end, or nothing. -/
def readOffset? (cs : List Char) : Option (Option (Bool × List Char × List Char)) :=
  match cs.dropWhile isSpaceOrTab with
  | [] => if cs.isEmpty then some none else none
  | ['Z'] => some (some (false, [], []))
  | sign :: rest =>
    if sign == '-' || sign == '+' then do
      let (hours, rest) ← takeShort? rest
      if rest.isEmpty then return some (sign == '-', hours, [])
      let (minutes, rest) ← takeDigits? 2 (← takeMark? ':' rest)
      if rest.isEmpty then return some (sign == '-', hours, minutes) else none
    else none

/-- A date, which a time of day may follow. -/
def readMoment? (cs : List Char) : Option MomentParts := do
  let (year, rest) ← takeDigits? 4 cs
  let (month, rest) ← takeShort? (← takeMark? '-' rest)
  let (day, rest) ← takeShort? (← takeMark? '-' rest)
  match rest with
  | [] => return ⟨year, month, day, none, none⟩
  | c :: tail =>
    let clock ← if c == 'T' || c == 't' then some tail
      else if isSpaceOrTab c then some (tail.dropWhile isSpaceOrTab) else none
    let (hour, rest) ← takeShort? clock
    let (minute, rest) ← takeDigits? 2 (← takeMark? ':' rest)
    let (second, rest) ← takeDigits? 2 (← takeMark? ':' rest)
    let (fraction, rest) := match rest with
      | '.' :: rest => (rest.takeWhile isAsciiDigit, rest.dropWhile isAsciiDigit)
      | _ => ([], rest)
    return ⟨year, month, day, some (hour, minute, second, fraction), ← readOffset? rest⟩

/-- A date alone needs two digits for month and day to be taken for one. -/
def isMoment (cs : List Char) : Bool :=
  (readMoment? cs).any fun p => p.clock.isSome || (p.month.length == 2 && p.day.length == 2)

def markWords : List String := ["!", "&", "*"]

def dropFinalBreak (cs : List Char) : List Char :=
  if cs.getLast? == some '\n' then cs.dropLast else cs

/-- The tag that a text has by its form; a line feed at its end makes no difference. -/
def Tag.ofText (text : String) : Tag :=
  let cs := dropFinalBreak text.toList
  let s := String.ofList cs
  if cs.isEmpty && !text.isEmpty then .text
  else if trueWords.contains s || falseWords.contains s then .flag
  else if isNumber cs then .number
  else if isWhole cs then .whole
  else if s == "<<" then .merge
  else if nullWords.contains s then .null
  else if isMoment cs then .moment
  else if s == "=" then .default
  else if markWords.contains s then .unknown
  else .text

end MetricArchive.Yaml
