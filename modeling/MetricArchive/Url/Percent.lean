import MetricArchive.Text.Digit
import MetricArchive.Text.Utf8

/-!
# Percent encoding

A character outside a kept class is written as the bytes of its UTF-8 form, each as a percent sign
and two capital hexadecimal digits. Decoding takes such triples for bytes, leaves any other percent
sign alone and shows what is not UTF-8 as replacement characters.
-/
namespace MetricArchive.Url

def isAsciiLetterOrDigit (c : Char) : Bool :=
  ('a' ≤ c && c ≤ 'z') || ('A' ≤ c && c ≤ 'Z') || ('0' ≤ c && c ≤ '9')

def isUnreserved (c : Char) : Bool :=
  isAsciiLetterOrDigit c || c == '-' || c == '.' || c == '_' || c == '~'

def capitalHex (n : Nat) : Char := (Nat.digitChar n).toUpper

def escapeByte (b : UInt8) : List Char :=
  ['%', capitalHex (b.toNat / 16), capitalHex (b.toNat % 16)]

def escapeChar (c : Char) : List Char :=
  (String.ofList [c]).toUTF8.data.toList.flatMap escapeByte

def encode (keeps : Char → Bool) (cs : List Char) : List Char :=
  cs.flatMap fun c => if keeps c then [c] else escapeChar c

/-- Encoding in a query: a blank becomes a plus sign. -/
def encodePlus (cs : List Char) : List Char :=
  (encode (fun c => isUnreserved c || c == ' ') cs).map fun c => if c == ' ' then '+' else c

def hexDigit? (c : Char) : Option Nat :=
  if '0' ≤ c && c ≤ '9' then some (c.toNat - 48)
  else if 'a' ≤ c && c ≤ 'f' then some (c.toNat - 87)
  else if 'A' ≤ c && c ≤ 'F' then some (c.toNat - 55)
  else none

/-- The bytes of a text with the encoded triples decoded. -/
def bytes : List Char → List UInt8
  | [] => []
  | '%' :: a :: b :: rest =>
    match hexDigit? a, hexDigit? b with
    | some x, some y => UInt8.ofNat (16 * x + y) :: bytes rest
    | _, _ => UInt8.ofNat '%'.toNat :: bytes (a :: b :: rest)
  | c :: rest => (String.ofList [c]).toUTF8.data.toList ++ bytes rest

/-- Decodes the triples. A run of other characters is not touched by what stands before it. -/
def decode (cs : List Char) : List Char := Text.Utf8.decodeLossy (bytes cs)

/-- Decodes the triples if every percent sign begins one and what they say is UTF-8. -/
def decodeStrict? (cs : List Char) : Option (List Char) :=
  let percents := (cs.filter (· == '%')).length
  let taken := (bytes cs).length + 2 * percents
  if taken == (String.ofList cs).utf8ByteSize then
    (Text.Utf8.decode (bytes cs)).toOption
  else none

end MetricArchive.Url
