import MetricArchive.Text.CharClass

/-!
# Quoting an excerpt in a message

An excerpt stands between single quotes, or between double quotes when it holds a single quote and
no double quote. Backslashes, the quote in use and characters that do not print are escaped, so
that the message stays on one line.
-/
namespace MetricArchive.Text

/-- A number in lower-case hexadecimal digits, filled with zeros to a width. -/
def hex (width n : Nat) : List Char :=
  let digits := Nat.toDigits 16 n
  List.replicate (width - digits.length) '0' ++ digits

def excerptQuote (cs : List Char) : Char :=
  if cs.contains '\'' && !cs.contains '"' then '"' else '\''

/-- A character by its number, in as many digits as such numbers may need. -/
def escapeNumber (c : Char) : List Char :=
  if c.toNat < 0x100 then '\\' :: 'x' :: hex 2 c.toNat
  else if c.toNat < 0x10000 then '\\' :: 'u' :: hex 4 c.toNat
  else '\\' :: 'U' :: hex 8 c.toNat

def escapeChar (quote c : Char) : List Char :=
  if c == '\\' || c == quote then ['\\', c]
  else if c == '\n' then ['\\', 'n']
  else if c == '\r' then ['\\', 'r']
  else if c == '\t' then ['\\', 't']
  else if isPrintable c then [c]
  else escapeNumber c

def excerpt (s : String) : String :=
  let quote := excerptQuote s.toList
  String.ofList (quote :: (s.toList.flatMap (escapeChar quote) ++ [quote]))

end MetricArchive.Text
