import MetricArchive.Number.Shortest

/-!
# Laying out numbers as text

`NumberLayout` holds the decisions of a number format; which digits are written is settled
beforehand by the shortest numeral. Fixed places and digit groups are separate functions.
-/
namespace MetricArchive

/-- Where positional notation ends and how special values are spelled. -/
structure NumberLayout where
  /-- Numbers whose leading digit stands at ten to one of these powers are written positionally. -/
  leastPositional : Int
  greatestPositional : Int
  /-- Least number of digits of a written exponent. -/
  exponentDigits : Nat
  nan : String
  infinity : String
  deriving Repr

namespace NumberLayout

/-- Plain numbers keep a fraction digit, so `1.0`; exponents appear from ten to the sixteenth up
and below ten to the minus fourth. -/
def plain : NumberLayout := ⟨-4, 15, 2, "nan", "inf"⟩

def padLeft (width : Nat) (fill : Char) (cs : List Char) : List Char :=
  List.replicate (width - cs.length) fill ++ cs

def decimalDigits (n : Nat) : List Char := Nat.toDigits 10 n

def dropTrailingZeros (digits : List Char) : List Char :=
  (digits.reverse.dropWhile (· == '0')).reverse

/-- Digits before and after the point, the point `power + 1` digits into the numeral. -/
def positional (digits : List Char) (power : Int) : List Char :=
  if power < 0 then
    '0' :: '.' :: (List.replicate (-power - 1).toNat '0' ++ digits)
  else
    let whole := power.toNat + 1
    let front := digits.take whole
    let back := digits.drop whole
    front ++ List.replicate (whole - front.length) '0' ++ '.' :: (if back.isEmpty then ['0'] else back)

def exponential (l : NumberLayout) (digits : List Char) (power : Int) : List Char :=
  let mantissa :=
    match digits with
    | [] => []
    | [d] => [d]
    | d :: ds => d :: '.' :: ds
  mantissa ++ 'e' :: (if power < 0 then '-' else '+') ::
    padLeft l.exponentDigits '0' (decimalDigits power.natAbs)

def magnitude (l : NumberLayout) (m : Nat) (e : Int) : List Char :=
  if m = 0 then ['0', '.', '0']
  else
    let (coefficient, k) := Binary64.shortest m e
    let all := decimalDigits coefficient
    let power := k + all.length - 1
    let digits := dropTrailingZeros all
    if l.leastPositional ≤ power ∧ power ≤ l.greatestPositional then positional digits power
    else exponential l digits power

def write (l : NumberLayout) : Binary64 → String
  | .nan => l.nan
  | .infinite negative => (if negative then "-" else "") ++ l.infinity
  | .finite negative m e => String.ofList ((if negative then ['-'] else []) ++ magnitude l m e)

end NumberLayout

/-- The absolute value as a natural number of `10 ^ -places`, a half to the even neighbour. -/
def Binary64.scaledPlaces (places m : Nat) (e : Int) : Nat :=
  let s := Binary64.scale (Binary64.tenTo places) 1 (-e)
  Binary64.roundQuotient (m * s.1) s.2

/-- A finite number in units of `10 ^ -places`, a half to the even neighbour. -/
def Binary64.inUnits (places : Nat) : Binary64 → Int
  | .finite negative m e =>
    let n := scaledPlaces places m e
    if negative then -(n : Int) else n
  | _ => 0

/-- A number with a fixed count of digits after the point. -/
def fixedPlaces (places : Nat) : Binary64 → String
  | .nan => "nan"
  | .infinite negative => if negative then "-inf" else "inf"
  | .finite negative m e =>
    let digits := NumberLayout.padLeft (places + 1) '0'
      (NumberLayout.decimalDigits (Binary64.scaledPlaces places m e))
    let whole := digits.take (digits.length - places)
    let fraction := digits.drop (digits.length - places)
    String.ofList ((if negative then ['-'] else []) ++ whole ++
      (if places = 0 then [] else '.' :: fraction))

/-- The nearest number with a given count of decimal places, a half to the even neighbour. -/
def Binary64.roundPlaces (places : Nat) : Binary64 → Binary64
  | .finite negative m e => .ofRatio negative (Binary64.scaledPlaces places m e) (tenTo places)
  | x => x

/-- Digits in groups of three, from the right. -/
def groupThousands : List Char → List Char
  | [] => []
  | c :: rest =>
    if rest.length % 3 = 0 ∧ rest ≠ [] then c :: ',' :: groupThousands rest
    else c :: groupThousands rest

/-- A whole number with its digits grouped by commas. -/
def grouped (n : Int) : String :=
  String.ofList ((if n < 0 then ['-'] else []) ++
    groupThousands (NumberLayout.decimalDigits n.natAbs))

end MetricArchive
