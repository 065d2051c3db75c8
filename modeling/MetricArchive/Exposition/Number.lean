import MetricArchive.Exposition.Fault
import MetricArchive.Number.Binary64
import MetricArchive.Text.Decimal
import MetricArchive.Time.Moment

/-!
# Sample values and timestamps

A value is a decimal numeral over digits of any script, or a spelled infinity or NaN in letters of
either case. Two letters that case-fold to `i`, one with a dot too many and one without, pass as
such in the spelling but name no number. A timestamp is a whole number of milliseconds.
-/
namespace MetricArchive.Exposition

open Text

inductive ValueToken where
  | decimal (negative : Bool) (coefficient : Nat) (exponent : Int)
  | infinite (negative : Bool)
  | nan
  /-- Spelled with a letter that only passes for an `i`. -/
  | misspelled
  deriving DecidableEq, Repr

/-- Whether a letter passes for a given small letter when case is ignored. -/
def passesFor (small c : Char) : Bool :=
  c.toLower == small || (small == 'i' && (c == 'İ' || c == 'ı'))

def spells : List Char → List Char → Bool
  | [], [] => true
  | w :: word, c :: cs => passesFor w c && spells word cs
  | _, _ => false

def isAscii (c : Char) : Bool := c.toNat < 0x80

def readValueToken? (cs : List Char) : Option ValueToken :=
  let (negative, body) := takeSign cs
  match readDecimal? body with
  | some (coefficient, exponent) => some (.decimal negative coefficient exponent)
  | none =>
    let infinite := spells ['i', 'n', 'f'] body || spells ['i', 'n', 'f', 'i', 'n', 'i', 't', 'y'] body
    if infinite then some (if body.all isAscii then .infinite negative else .misspelled)
    else if spells ['n', 'a', 'n'] body then some .nan
    else none

def ValueToken.number? : ValueToken → Option Binary64
  | .decimal negative coefficient exponent => some (.ofDecimal negative coefficient exponent)
  | .infinite negative => some (.infinite negative)
  | .nan => some .nan
  | .misspelled => none

def readValue (token : List Char) : Except LineRefusal Binary64 :=
  match readValueToken? token with
  | none => .error (.fault .notANumber token)
  | some t =>
    match t.number? with
    | some x => .ok x
    | none => .error (.breakdown (.unreadableNumber (String.ofList token)))

/-- The digits of an integer and whether a minus precedes them. -/
def readInteger? : List Char → Option (Bool × List Char)
  | '-' :: digits => if !digits.isEmpty && digits.all isDigit then some (true, digits) else none
  | digits => if !digits.isEmpty && digits.all isDigit then some (false, digits) else none

def signed (negative : Bool) (n : Nat) : Int := if negative then -(n : Int) else n

def readTimestamp (token : List Char) : Except LineRefusal Moment :=
  match readInteger? token with
  | none => .error (.fault .notAnInteger token)
  | some (negative, digits) =>
    if digitLimit < digits.length then .error (.breakdown (.oversizedInteger digits.length))
    else
      match Moment.ofEpochMillis? (signed negative (digitsValue digits)) with
      | some m => .ok m
      | none => .error (.fault .outOfRange token)

end MetricArchive.Exposition
