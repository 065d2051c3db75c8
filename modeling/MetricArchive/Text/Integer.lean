import MetricArchive.Text.Blank
import MetricArchive.Text.Digit
import MetricArchive.Text.Excerpt

/-!
# Whole numbers in text

A whole number has an optional sign and digits of any script, with single underscores between
digits and blanks around all of it. Numbers of more than 4300 digits are refused, because reading
them takes time that grows with the square of their length. Bases that are powers of two know no
such limit; there the digits may follow a zero and the letter of their base.
-/
namespace MetricArchive.Text

/-- The number of digits that a whole number may have. -/
def digitLimit : Nat := 4300

def oversizedMessage (digits : Nat) : String :=
  s!"Exceeds the limit ({digitLimit} digits) for integer string conversion: " ++
    s!"value has {digits} digits; use sys.set_int_max_str_digits() to increase the limit"

inductive IntegerFault where
  | malformed (base : Nat) (text : String)
  | oversized (digits : Nat)
  deriving DecidableEq, Repr

/-- The text in question is cut off after 200 characters. -/
def IntegerFault.message : IntegerFault → String
  | .malformed base text =>
    s!"invalid literal for int() with base {base}: " ++
      String.ofList ((excerpt text).toList.take 200)
  | .oversized digits => oversizedMessage digits

/-- The digits at the front, without the underscores between them, and the rest. -/
def takeGroupedDigits (afterDigit : Bool) : List Char → List Char × List Char
  | [] => ([], [])
  | c :: rest =>
    if isDigit c then
      let (digits, rest) := takeGroupedDigits true rest
      (c :: digits, rest)
    else if c == '_' && afterDigit && rest.head?.any isDigit then takeGroupedDigits false rest
    else ([], c :: rest)

/-- A sign at the front, true for minus, and the rest. -/
def takeSign : List Char → Bool × List Char
  | '-' :: rest => (true, rest)
  | '+' :: rest => (false, rest)
  | cs => (false, cs)

/-- A blank that may stand around a number: the separators of information may not. -/
def isPadding (c : Char) : Bool := isBlank c && !('\x1c' ≤ c && c ≤ '\x1f')

def dropPadding (cs : List Char) : List Char :=
  ((cs.dropWhile isPadding).reverse.dropWhile isPadding).reverse

def readWhole (s : String) : Except IntegerFault Int :=
  let (negative, body) := takeSign (dropPadding s.toList)
  let (digits, rest) := takeGroupedDigits false body
  if digits.isEmpty || rest.head? == some '_' then .error (.malformed 10 s)
  else if digitLimit < digits.length then .error (.oversized digits.length)
  else if rest.isEmpty then
    let n := digitsValue digits
    .ok (if negative then -(n : Int) else n)
  else .error (.malformed 10 s)

/-- The value of a digit of base sixteen; decimal digits may be of any script. -/
def hexDigit? (c : Char) : Option Nat :=
  if 'a' ≤ c && c ≤ 'f' then some (c.toNat - 87)
  else if 'A' ≤ c && c ≤ 'F' then some (c.toNat - 55)
  else digit? c

/-- The letter that may stand after a zero in front of digits of a base. -/
def isBaseMark (base : Nat) (c : Char) : Bool :=
  match base with
  | 2 => c == 'b' || c == 'B'
  | 8 => c == 'o' || c == 'O'
  | 16 => c == 'x' || c == 'X'
  | _ => false

def dropBaseMark (base : Nat) : List Char → List Char
  | zero :: mark :: rest =>
    if digit? zero == some 0 && isBaseMark base mark then rest else zero :: mark :: rest
  | cs => cs

/-- A whole number in base two, eight or sixteen, without underscores. -/
def readInBase (base : Nat) (s : String) : Except IntegerFault Int :=
  let (negative, body) := takeSign (dropPadding s.toList)
  let digits := dropBaseMark base body
  if digits.isEmpty || !digits.all (fun c => (hexDigit? c).any (· < base)) then
    .error (.malformed base s)
  else
    let n := digits.foldl (fun n c => base * n + (hexDigit? c).getD 0) 0
    .ok (if negative then -(n : Int) else n)

end MetricArchive.Text
