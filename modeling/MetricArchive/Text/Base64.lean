/-!
# Bytes in base 64

Four letters hold three bytes, and equals signs fill up the last four. Characters outside the
alphabet are passed over, and so is a filling that comes too early to end the text.
-/
namespace MetricArchive.Text.Base64

/-- The six bits that a letter stands for. -/
def sextet? (c : Char) : Option Nat :=
  if 'A' ≤ c && c ≤ 'Z' then some (c.toNat - 65)
  else if 'a' ≤ c && c ≤ 'z' then some (c.toNat - 71)
  else if '0' ≤ c && c ≤ '9' then some (c.toNat + 4)
  else if c == '+' then some 62
  else if c == '/' then some 63
  else none

/-- The byte that a letter completes, `place` letters into its four, with the bits left over from
the letter before. -/
def byteAt? (place left bits : Nat) : Option UInt8 :=
  match place with
  | 0 => none
  | 1 => some (UInt8.ofNat (left * 4 + bits / 16))
  | 2 => some (UInt8.ofNat (left * 16 + bits / 4))
  | _ => some (UInt8.ofNat (left * 64 + bits))

/-- The bits of a letter that its byte has no room for. -/
def leftOver (place bits : Nat) : Nat :=
  match place with
  | 0 => bits
  | 1 => bits % 16
  | 2 => bits % 4
  | _ => 0

/-- Decodes from a place on; `fill` counts the equals signs since the last letter. -/
def decodeFrom (place left fill : Nat) : List Char → Option (List UInt8)
  | [] => if place = 0 then some [] else none
  | c :: rest =>
    if c == '=' then
      if 2 ≤ place && 4 ≤ place + fill + 1 then some []
      else decodeFrom place left (if 2 ≤ place then fill + 1 else fill) rest
    else
      match sextet? c with
      | none => decodeFrom place left fill rest
      | some bits =>
        (decodeFrom ((place + 1) % 4) (leftOver place bits) 0 rest).map fun bytes =>
          (byteAt? place left bits).toList ++ bytes

def decode? (cs : List Char) : Option (List UInt8) := decodeFrom 0 0 0 cs

end MetricArchive.Text.Base64
