/-!
# Decoding UTF-8

`decode` reads the shortest-form, surrogate-free encoding of the standard and otherwise gives the
position of the first byte that cannot start or continue a character: the lead byte of the
character that breaks off. Encoding is the library's own `String.toUTF8`.
-/
namespace MetricArchive.Text.Utf8

def isTail (b : UInt8) : Bool := 0x80 ≤ b && b ≤ 0xbf

def tailBits (b : UInt8) : Nat := b.toNat % 0x40

/-- The bytes that may stand second after a given lead byte of a longer character. -/
def isSecond (lead b : UInt8) : Bool :=
  if lead == 0xe0 then 0xa0 ≤ b && b ≤ 0xbf
  else if lead == 0xed then 0x80 ≤ b && b ≤ 0x9f
  else if lead == 0xf0 then 0x90 ≤ b && b ≤ 0xbf
  else if lead == 0xf4 then 0x80 ≤ b && b ≤ 0x8f
  else isTail b

/-- One character at the front, and the bytes after it. -/
def decodeOne : List UInt8 → Option (Char × List UInt8)
  | [] => none
  | a :: rest =>
    if a < 0x80 then some (Char.ofNat a.toNat, rest)
    else if 0xc2 ≤ a && a ≤ 0xdf then
      match rest with
      | b :: rest =>
        if isTail b then some (Char.ofNat ((a.toNat - 0xc0) * 0x40 + tailBits b), rest) else none
      | [] => none
    else if 0xe0 ≤ a && a ≤ 0xef then
      match rest with
      | b :: c :: rest =>
        if isSecond a b && isTail c then
          some (Char.ofNat (((a.toNat - 0xe0) * 0x40 + tailBits b) * 0x40 + tailBits c), rest)
        else none
      | _ => none
    else if 0xf0 ≤ a && a ≤ 0xf4 then
      match rest with
      | b :: c :: d :: rest =>
        if isSecond a b && isTail c && isTail d then
          some (Char.ofNat ((((a.toNat - 0xf0) * 0x40 + tailBits b) * 0x40 + tailBits c) * 0x40 +
            tailBits d), rest)
        else none
      | _ => none
    else none

theorem decodeOne_length {bs rest : List UInt8} {c : Char} (h : decodeOne bs = some (c, rest)) :
    rest.length < bs.length := by
  unfold decodeOne at h
  repeat' split at h
  all_goals simp_all
  all_goals omega

/-- The characters of a byte sequence whose first byte has position `start`, or the position at
which it stops being UTF-8. -/
def decodeFrom (start : Nat) (bs : List UInt8) : Except Nat (List Char) :=
  if bs.isEmpty then .ok []
  else
    match _step : decodeOne bs with
    | none => .error start
    | some (c, rest) =>
      match decodeFrom (start + (bs.length - rest.length)) rest with
      | .ok cs => .ok (c :: cs)
      | .error position => .error position
termination_by bs.length
decreasing_by exact decodeOne_length _step

def decode (bs : List UInt8) : Except Nat (List Char) := decodeFrom 0 bs

/-- How many bytes at the front belong to a character that breaks off; at least one. -/
def brokenLength : List UInt8 → Nat
  | a :: b :: rest =>
    if (0xe0 ≤ a && a ≤ 0xf4) && isSecond a b then
      if 0xf0 ≤ a && rest.head?.any isTail then 3 else 2
    else 1
  | _ => 1

theorem brokenLength_pos (bs : List UInt8) : 0 < brokenLength bs := by
  unfold brokenLength
  split
  · split
    · split <;> omega
    · omega
  · omega

/-- Decodes what can be decoded and puts a replacement character for each character that breaks
off. -/
def decodeLossy (bs : List UInt8) : List Char :=
  if _empty : bs = [] then []
  else
    match _step : decodeOne bs with
    | some (c, rest) => c :: decodeLossy rest
    | none => Char.ofNat 0xfffd :: decodeLossy (bs.drop (brokenLength bs))
termination_by bs.length
decreasing_by
  · exact decodeOne_length _step
  · have := brokenLength_pos bs
    have := List.length_pos_iff.2 _empty
    simp only [List.length_drop]
    omega

end MetricArchive.Text.Utf8
