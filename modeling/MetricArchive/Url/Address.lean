import MetricArchive.Text.Split
import MetricArchive.Url.Percent

/-!
# Numeric host addresses

A dotted address has four decimal numbers below 256 without leading zeros. A colon address has
eight groups of up to four hexadecimal digits; one run of groups may be left out between two
colons, the last two groups may be written as a dotted address, and a zone may follow.
-/
namespace MetricArchive.Url

def isAsciiDigit (c : Char) : Bool := '0' ≤ c && c ≤ '9'

def isDottedPart (cs : List Char) : Bool :=
  !cs.isEmpty && cs.all isAsciiDigit && cs.length ≤ 3 && (cs == ['0'] || cs.head? != some '0') &&
    cs.foldl (fun n c => 10 * n + (c.toNat - 48)) 0 ≤ 255

def isDottedAddress (cs : List Char) : Bool :=
  let parts := Text.split '.' cs
  parts.length == 4 && parts.all isDottedPart

/-- Digits, any character, digits and so on: four groups of digits with one character between each
two. Every text that looks like a dotted address is one of these. The state is the number of groups
begun and whether a digit of the last one has been read. -/
def resemblesDottedFrom : List (Nat × Bool) → List Char → Bool
  | states, [] => states.contains (4, true)
  | states, c :: rest =>
    let next := states.flatMap fun (groups, read) =>
      (if isAsciiDigit c then [(groups, true)] else []) ++
        (if read && groups < 4 then [(groups + 1, false)] else [])
    resemblesDottedFrom next.eraseDups rest

def resemblesDotted (cs : List Char) : Bool := resemblesDottedFrom [(1, false)] cs

def isColonGroup (cs : List Char) : Bool :=
  !cs.isEmpty && cs.length ≤ 4 && cs.all fun c => (hexDigit? c).isSome

/-- The groups, with a dotted address at the end counted as two; none if that address is wrong. -/
def colonGroups? (cs : List Char) : Option (List (List Char)) :=
  let parts := Text.split ':' cs
  match parts.getLast? with
  | some last =>
    if last.contains '.' then
      if isDottedAddress last then some (parts.dropLast ++ [['0'], ['0']]) else none
    else some parts
  | none => none

/-- Groups on one side of the gap. Next to the gap there is nothing to write; the side may be empty,
which leaves an empty part at the end of the text. -/
def isGapSide (parts : List (List Char)) : Bool := parts == [[]] || parts.all isColonGroup

def isColonForm (cs : List Char) : Bool :=
  2 ≤ (cs.filter (· == ':')).length &&
    match colonGroups? cs with
    | none => false
    | some parts =>
      if 9 < parts.length then false
      else
        let inner := (parts.drop 1).dropLast
        let before := (parts.drop 1).dropLast.takeWhile (!·.isEmpty)
        match (inner.filter (·.isEmpty)).length with
        | 0 => parts.length == 8 && parts.all isColonGroup
        | 1 =>
          let front := parts.take (before.length + 1)
          let back := parts.drop (before.length + 2)
          let written := (front ++ back).filter (!·.isEmpty)
          isGapSide front && isGapSide back && written.length ≤ 7
        | _ => false

/-- A colon address; a zone after a percent sign is any text without another percent sign. -/
def isColonAddress (cs : List Char) : Bool :=
  match Text.cutAt '%' cs with
  | (address, none) => !address.contains '/' && isColonForm address
  | (address, some zone) =>
    !address.contains '/' && !zone.contains '/' && !zone.isEmpty && !zone.contains '%' &&
      isColonForm address

end MetricArchive.Url
