import MetricArchive.Text.Integer

/-!
# Decimal numerals

Digits of any script with an optional point and an optional exponent; there has to be a digit on
one side of the point.
-/
namespace MetricArchive.Text

/-- The exponent that ends a numeral; nothing at all is exponent zero. -/
def readExponent? : List Char → Option Int
  | [] => some 0
  | c :: rest =>
    let (negative, digits) := takeSign rest
    if (c == 'e' || c == 'E') && !digits.isEmpty && digits.all isDigit then
      some (if negative then -(digitsValue digits : Int) else digitsValue digits)
    else none

/-- Digits with an optional point, then an optional exponent: coefficient and power of ten. -/
def readDecimal? (cs : List Char) : Option (Nat × Int) :=
  let whole := cs.takeWhile isDigit
  let rest := cs.dropWhile isDigit
  let afterPoint := if rest.head? == some '.' then rest.tail else []
  let fraction := afterPoint.takeWhile isDigit
  let tail := if rest.head? == some '.' then afterPoint.dropWhile isDigit else rest
  if whole.isEmpty && fraction.isEmpty then none
  else (readExponent? tail).map fun e => (digitsValue (whole ++ fraction), e - fraction.length)

end MetricArchive.Text
