import MetricArchive.Number.Binary64
import MetricArchive.Text.Decimal

/-!
# Numbers in text

A number is a numeral with an optional sign, or an infinity or NaN by its name in letters of either
case; blanks may stand around it, and single underscores between digits.
-/
namespace MetricArchive.Binary64

open Text (isDigit)

/-- Drops the underscores between digits; any other underscore is refused. -/
def dropGroupMarks? (afterDigit : Bool) : List Char → Option (List Char)
  | [] => some []
  | '_' :: rest =>
    if afterDigit && rest.head?.any isDigit then dropGroupMarks? false rest else none
  | c :: rest => (dropGroupMarks? (isDigit c) rest).map (c :: ·)

def ofUnsigned? (negative : Bool) (cs : List Char) : Option Binary64 :=
  let word := String.ofList (cs.map Char.toLower)
  if word == "inf" || word == "infinity" then some (.infinite negative)
  else if word == "nan" then some .nan
  else
    ((dropGroupMarks? false cs).bind Text.readDecimal?).map fun (coefficient, exponent) =>
      .ofDecimal negative coefficient exponent

def ofText? (s : String) : Option Binary64 :=
  let (negative, body) := Text.takeSign (Text.dropPadding s.toList)
  ofUnsigned? negative body

def unreadableMessage (s : String) : String :=
  "could not convert string to float: " ++ Text.excerpt s

end MetricArchive.Binary64
