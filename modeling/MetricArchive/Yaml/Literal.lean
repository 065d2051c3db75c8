import MetricArchive.Config.Shown
import MetricArchive.Number.Numeral
import MetricArchive.Text.Base64
import MetricArchive.Text.Case
import MetricArchive.Text.Split
import MetricArchive.Yaml.Fault
import MetricArchive.Yaml.Tag

/-!
# Values of scalars

The value of a text under a tag. A tag that is written out may stand before any text, so a text need
not have the form of its tag, and can even have that form and name no value, such as a day that no
month has.
-/
namespace MetricArchive.Yaml

def withoutUnderscores (s : String) : List Char := s.toList.filter (· != '_')

/-- A sign at the front and the rest of a number that has a character at all. -/
def takeSign : List Char → Except Fault (Bool × List Char)
  | [] => .error .emptyNumber
  | '-' :: rest => .ok (true, rest)
  | '+' :: rest => .ok (false, rest)
  | cs => .ok (false, cs)

def integer (r : Except Text.IntegerFault Int) : Except Fault Int :=
  r.mapError fun f => .impossible f.message

/-- A whole number without its sign, in the base that its first characters announce. -/
def readUnsigned (cs : List Char) : Except Fault Int :=
  match cs with
  | [] => .error .emptyNumber
  | ['0'] => .ok 0
  | '0' :: 'b' :: digits => integer (Text.readInBase 2 (String.ofList digits))
  | '0' :: 'x' :: digits => integer (Text.readInBase 16 (String.ofList digits))
  | '0' :: _ => integer (Text.readInBase 8 (String.ofList cs))
  | _ =>
    if cs.contains ':' then
      (Text.split ':' cs).foldlM (fun n part =>
        (integer (Text.readWhole (String.ofList part))).map (60 * n + ·)) 0
    else integer (Text.readWhole (String.ofList cs))

def readWhole (s : String) : Except Fault Int := do
  let (negative, body) ← takeSign (withoutUnderscores s)
  (readUnsigned body).map fun n => if negative then -n else n

def readPart (cs : List Char) : Except Fault Binary64 :=
  let s := String.ofList cs
  (Binary64.ofText? s).elim (.error (.impossible (Binary64.unreadableMessage s))) .ok

/-- Parts in base sixty, the last one first, are added up in that order, with a rounding for every
place, product and sum. -/
def sumSixties (sum : Binary64) (place : Nat) : List Binary64 → Except Fault Binary64
  | [] => .ok sum
  | x :: rest =>
    match Binary64.ofInt place with
    | .finite s m e => sumSixties (sum + x * .finite s m e) (60 * place) rest
    | _ => .error .hugePlace

def readNumber (s : String) : Except Fault Binary64 := do
  let (negative, body) ← takeSign (Text.lowerCase (withoutUnderscores s))
  let signed := fun (x : Binary64) => if negative then -x else x
  if body == ['.', 'i', 'n', 'f'] then return .infinite negative
  else if body == ['.', 'n', 'a', 'n'] then return .nan
  else if body.contains ':' then
    let parts ← (Text.split ':' body).mapM readPart
    return signed (← sumSixties .zero 1 parts.reverse)
  else return signed (← readPart body)

def natOf (digits : List Char) : Nat := Text.digitsValue digits

/-- Six digits of a fraction of a second. -/
def microseconds (fraction : List Char) : Nat :=
  natOf ((fraction ++ List.replicate 6 '0').take 6)

/-- The message for an offset of a day or more. -/
def offsetMessage (offset : Int) : String :=
  "offset must be a timedelta strictly between -timedelta(hours=24) and timedelta(hours=24), not " ++
    ConfigValue.spanText (.ofMicros offset) ++ "."

/-- An offset in hours and minutes. -/
def readOffset : Option (Bool × List Char × List Char) → Except Fault (Option Int)
  | none => .ok none
  | some (negative, hours, minutes) =>
    let span : Int := 60000000 * (60 * natOf hours + natOf minutes)
    let span := if negative then -span else span
    if span.natAbs < 86400000000 then .ok (some span)
    else .error (.impossible (offsetMessage span))

def ofParts (p : MomentParts) : Except Fault ConfigValue := do
  let (hour, minute, second, fraction) := p.clock.getD ([], [], [], [])
  let civil : CivilTime := ⟨natOf p.year, natOf p.month, natOf p.day, natOf hour, natOf minute,
    natOf second, microseconds fraction⟩
  let offset ← readOffset p.offset
  let wall ← civil.wall.mapError fun f => .impossible f.message
  if p.clock.isNone then return .date ⟨natOf p.year, natOf p.month, natOf p.day⟩
  else return .moment ⟨wall, offset⟩

def readMoment (s : String) : Except Fault ConfigValue :=
  match readMoment? (dropFinalBreak s.toList) with
  | none => .error .notMoment
  | some p => ofParts p

def readFlag (s : String) : Except Fault ConfigValue :=
  let word := Text.lowerCase s.toList
  if trueWords.any (·.toList == word) then .ok (.flag true)
  else if falseWords.any (·.toList == word) then .ok (.flag false)
  else .error (.unknownWord (String.ofList word))

def readBytes (s : String) : Except Fault ConfigValue :=
  if s.toList.all fun c => c.toNat < 0x80 then
    (require (Text.Base64.decode? s.toList)).map .bytes
  else .error .malformed

/-- The value of a text under a tag that scalars have. -/
def literal (tag : Tag) (s : String) : Except Fault ConfigValue :=
  match tag with
  | .null => .ok .null
  | .flag => readFlag s
  | .whole => (readWhole s).map .whole
  | .number => (readNumber s).map .number
  | .bytes => readBytes s
  | .moment => readMoment s
  | .text => .ok (.text s)
  | _ => .error .malformed

end MetricArchive.Yaml
