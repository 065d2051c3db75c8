/-!
# Punycode

The encoding of Unicode labels in letters, digits and hyphens of RFC 3492. The plain characters
stand first; the others follow as a list of insertions, each a gap in a walk over all code points
and positions, written in digits of varying weight.
-/
namespace MetricArchive.Url.Punycode

def threshold (weight bias : Nat) : Nat :=
  if weight ≤ bias then 1 else if bias + 26 ≤ weight then 26 else weight - bias

theorem threshold_pos (weight bias : Nat) : 0 < threshold weight bias := by
  unfold threshold
  split
  · omega
  · split <;> omega

def digitChar (n : Nat) : Char :=
  if n < 26 then Char.ofNat (n + 'a'.toNat) else Char.ofNat (n - 26 + '0'.toNat)

def digitValue? (c : Char) : Option Nat :=
  if 'a' ≤ c && c ≤ 'z' then some (c.toNat - 'a'.toNat)
  else if 'A' ≤ c && c ≤ 'Z' then some (c.toNat - 'A'.toNat)
  else if '0' ≤ c && c ≤ '9' then some (c.toNat - '0'.toNat + 26)
  else none

/-- A gap in digits, least weight first; the first digit below its threshold is the last. -/
def writeGap (gap weight bias : Nat) : List Char :=
  let t := threshold weight bias
  if gap < t then [digitChar gap]
  else digitChar (t + (gap - t) % (36 - t)) :: writeGap ((gap - t) / (36 - t)) (weight + 36) bias
termination_by gap
decreasing_by
  have := threshold_pos weight bias
  have := Nat.div_le_self (gap - threshold weight bias) (36 - threshold weight bias)
  omega

/-- Reads a gap and gives the rest; none if the digits break off or are none. -/
def readGap? (value factor weight bias : Nat) : List Char → Option (Nat × List Char)
  | [] => none
  | c :: rest =>
    match digitValue? c with
    | none => none
    | some d =>
      let t := threshold weight bias
      if d < t then some (value + d * factor, rest)
      else readGap? (value + d * factor) (factor * (36 - t)) (weight + 36) bias rest

theorem readGap?_length {value factor weight bias gap : Nat} {cs rest : List Char}
    (h : readGap? value factor weight bias cs = some (gap, rest)) : rest.length < cs.length := by
  induction cs generalizing value factor weight with
  | nil => simp [readGap?] at h
  | cons c cs ih =>
    simp only [readGap?] at h
    split at h
    · simp at h
    · split at h
      · simp only [Option.some.injEq, Prod.mk.injEq] at h
        simp [h.2]
      · exact Nat.lt_succ_of_lt (ih h)

/-- Reduces a gap until it is small; gives the weight and the rest. -/
def reduce (gap weight : Nat) : Nat × Nat :=
  if 455 < gap then reduce (gap / 35) (weight + 36) else (gap, weight)
termination_by gap

/-- The bias after a gap when there are so many characters. -/
def adapt (gap count : Nat) (first : Bool) : Nat :=
  let gap := if first then gap / 700 else gap / 2
  let (gap, weight) := reduce (gap + gap / count) 0
  weight + 36 * gap / (gap + 38)

/-- The state of encoding: the gap so far, the bias and how many characters are done. -/
structure Progress where
  gap : Nat
  bias : Nat
  done : Nat
  first : Bool

/-- Walks over the text for one code point; writes a gap for each occurrence. -/
def writeOccurrences (code : Nat) (p : Progress) : List Char → List Char × Progress
  | [] => ([], p)
  | c :: rest =>
    if c.toNat < code then writeOccurrences code { p with gap := p.gap + 1 } rest
    else if c.toNat = code then
      let bias := adapt p.gap (p.done + 1) p.first
      let (more, q) := writeOccurrences code ⟨0, bias, p.done + 1, false⟩ rest
      (writeGap p.gap 36 p.bias ++ more, q)
    else writeOccurrences code p rest

/-- Encodes the code points in ascending order, `next` being the first not yet passed. -/
def writeCodes (text : List Char) (next : Nat) (p : Progress) : List Nat → List Char
  | [] => []
  | code :: codes =>
    let p := { p with gap := p.gap + (code - next) * (p.done + 1) }
    let (out, p) := writeOccurrences code p text
    out ++ writeCodes text (code + 1) { p with gap := p.gap + 1 } codes

def isPlain (c : Char) : Bool := c.toNat < 128

def encode (text : List Char) : List Char :=
  let plain := text.filter isPlain
  let codes := ((text.filter (!isPlain ·)).map Char.toNat).eraseDups.mergeSort
  let head := if plain.isEmpty then [] else plain ++ ['-']
  head ++ writeCodes text 128 ⟨0, 72, plain.length, true⟩ codes

/-- Carries out the insertions. `next` is the position after the last one. -/
def insertAll (text : List Char) (code next bias : Nat) (first : Bool) (digits : List Char) :
    Option (List Char) :=
  if digits.isEmpty then some text
  else
    match _step : readGap? 0 1 36 bias digits with
    | none => none
    | some (gap, rest) =>
      let count := text.length + 1
      let code := code + (next + gap) / count
      let place := (next + gap) % count
      if code.isValidChar then
        let text := text.take place ++ Char.ofNat code :: text.drop place
        insertAll text code (place + 1) (adapt gap count first) false rest
      else none
termination_by digits.length
decreasing_by exact readGap?_length _step

/-- Decodes; the plain characters stand before the last hyphen. -/
def decode? (cs : List Char) : Option (List Char) :=
  let digits := (cs.reverse.takeWhile (· != '-')).reverse
  let plain := (cs.take (cs.length - digits.length)).dropLast
  if plain.all isPlain then insertAll plain 128 0 72 true digits else none

end MetricArchive.Url.Punycode
