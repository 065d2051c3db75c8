import MetricArchive.Text.Excerpt
import MetricArchive.Text.CharClass

/-!
# Writing direction of host names

A label with any letter that is written from right to left, or with any Arabic digit, is subject to
rules that keep it readable beside others: it starts with a letter, it keeps to one direction and
one kind of digits, and it ends with a letter or digit apart from marks. Directions are those of
version 14 of the Unicode standard, for the characters that a label may hold.
-/
namespace MetricArchive.Url

open Text (inRuns)

inductive Direction where
  | leftToRight
  | rightToLeft
  | arabicDigit
  | europeanDigit
  | mark
  | neutral
  deriving DecidableEq, Repr

def rightToLeftRuns : List (Nat × Nat) :=
  [(0x5d0, 0x5f4), (0x620, 0x64a), (0x66e, 0x66f), (0x671, 0x6d5), (0x6e5, 0x6e6), (0x6ee, 0x6ef),
    (0x6fa, 0x710), (0x712, 0x72f), (0x74d, 0x7a5), (0x7b1, 0x7ea), (0x7f4, 0x7f5), (0x800, 0x815),
    (0x81a, 0x81a), (0x824, 0x824), (0x828, 0x828), (0x840, 0x858), (0x860, 0x88e), (0x8a0, 0x8c9),
    (0xfe73, 0xfe73), (0x10800, 0x10a00), (0x10a10, 0x10a35), (0x10a60, 0x10ae4),
    (0x10b00, 0x10d23), (0x10e80, 0x10ea9), (0x10eb0, 0x10f45), (0x10f70, 0x10f81),
    (0x10fb0, 0x10ff6), (0x1e800, 0x1e8c4), (0x1e922, 0x1e943), (0x1e94b, 0x1e959)]

def arabicDigitRuns : List (Nat × Nat) :=
  [(0x660, 0x669), (0x10d30, 0x10d39)]

def europeanDigitRuns : List (Nat × Nat) :=
  [(0x30, 0x39), (0x6f0, 0x6f9)]

def neutralRuns : List (Nat × Nat) :=
  [(0x2d, 0x2d), (0xb7, 0xb7), (0x2b9, 0x2ba), (0x2c6, 0x2cf), (0x2ec, 0x2ec), (0x375, 0x375),
    (0x200c, 0x200d), (0x2e2f, 0x2e2f), (0x30fb, 0x30fb), (0xa67f, 0xa67f), (0xa717, 0xa71f),
    (0xa788, 0xa788)]

/-- Runs of marks that have a direction. -/
def directedMarkRuns : List (Nat × Nat) :=
  [(0xcbf, 0xcbf), (0xcc6, 0xcc6), (0x11a07, 0x11a08), (0x11c3f, 0x11c3f)]

def Direction.of (c : Char) : Direction :=
  if inRuns rightToLeftRuns c then .rightToLeft
  else if inRuns arabicDigitRuns c then .arabicDigit
  else if inRuns europeanDigitRuns c then .europeanDigit
  else if inRuns neutralRuns c then .neutral
  else if Text.isFlatMark c && !inRuns directedMarkRuns c then .mark
  else .leftToRight

inductive DirectionFault where
  | first (label : String)
  | mixed (position : Nat) (rightward : Bool)
  | mixedDigits
  | last
  deriving DecidableEq, Repr

def DirectionFault.message : DirectionFault → String
  | .first label =>
    "First codepoint in label " ++ Text.excerpt label ++ " must be directionality L, R or AL"
  | .mixed position rightward =>
    s!"Invalid direction for codepoint at position {position} in a " ++
      (if rightward then "left-to-right" else "right-to-left") ++ " label"
  | .mixedDigits => "Can not mix numeral types in a right-to-left label"
  | .last => "Label ends with illegal codepoint directionality"

namespace Direction

/-- Whether a direction may occur in a label that is written from left to right, or from right to
left. -/
def fits (rightward : Bool) : Direction → Bool
  | .leftToRight => rightward
  | .rightToLeft | .arabicDigit => !rightward
  | _ => true

def isDigits (d : Direction) : Bool := d = .arabicDigit || d = .europeanDigit

/-- Finds the first place that breaks the direction. From right to left all digits are of the kind
of the first. -/
def findMixture (rightward : Bool) (position : Nat) (digits : Option Direction) :
    List Direction → Option DirectionFault
  | [] => none
  | d :: rest =>
    if !d.fits rightward then some (.mixed position rightward)
    else if !rightward && d.isDigits && digits.any (· ≠ d) then some .mixedDigits
    else findMixture rightward (position + 1) (if d.isDigits then some d else digits) rest

/-- Whether a label may end with a direction that fits it. -/
def isEnd : Direction → Bool
  | .neutral | .mark => false
  | _ => true

end Direction

/-- What breaks the rules of direction in a label. -/
def directionFault? (label : List Char) : Option DirectionFault :=
  let ds := label.map Direction.of
  if ds.any fun d => d = .rightToLeft || d = .arabicDigit then
    match ds.head? with
    | some .leftToRight | some .rightToLeft =>
      let rightward := ds.head? == some .leftToRight
      Direction.findMixture rightward 1 none ds <|>
        if ((ds.reverse.dropWhile (· = .mark)).head?).any Direction.isEnd then none else some .last
    | _ => some (.first (String.ofList label))
  else none

end MetricArchive.Url
