import MetricArchive.Deflate.Reader

/-!
# Prefix codes

A code gives every symbol that occurs a word of bits such that none begins another. The lengths of
the words tell the code: words of one length are consecutive numbers in the order of their symbols,
and shorter words come first.
-/
namespace MetricArchive.Deflate

structure PrefixCode where
  /-- How many words there are of each length from one up to the greatest. -/
  counts : List Nat
  /-- The symbols in the order of their words. -/
  symbols : Array Nat
  deriving DecidableEq, Repr

namespace PrefixCode

/-- The code for the lengths of the words of symbols from zero on; a length of zero stands for no
word. -/
def ofLengths (lengths : List Nat) : PrefixCode :=
  let sizes := (List.range (lengths.foldl max 0)).map (· + 1)
  let symbolsOf := fun size =>
    (lengths.zipIdx.filter fun (length, _) => length == size).map fun (_, symbol) => symbol
  ⟨sizes.map fun size => (symbolsOf size).length, (sizes.flatMap symbolsOf).toArray⟩

/-- How many words of the greatest length could be added, if so many words of the last length could
be before; none if there are too many words as it is. -/
def room? (room : Nat) : List Nat → Option Nat
  | [] => some room
  | count :: rest => if count ≤ 2 * room then room? (2 * room - count) rest else none

/-- Whether every text of bits has a word of the code at its front. -/
def isComplete (c : PrefixCode) : Bool := room? 1 c.counts == some 0

def isEmpty (c : PrefixCode) : Bool := c.symbols.isEmpty

/-- A code with words of one bit only need not be complete. -/
def isUsable (c : PrefixCode) : Bool :=
  c.isComplete || (c.counts.length ≤ 1 && (room? 1 c.counts).isSome)

/-- Reads a word. `word` is the number of the bits read so far, `first` that of the first word of
their length that is not in the code, and `before` how many words are shorter or as long. -/
def readAfter (c : PrefixCode) (word first before : Nat) : List Nat → Reader (Option Nat)
  | [] => return none
  | count :: rest => do
    let word := 2 * word + (← Reader.readNumber 1)
    let first := 2 * first
    if word < first + count then return c.symbols[before + (word - first)]?
    else readAfter c word (first + count) (before + count) rest

/-- Reads the symbol of a word; there is none if no word fits. Even without words a bit is read. -/
def read (c : PrefixCode) : Reader (Option Nat) :=
  c.readAfter 0 0 0 (if c.isEmpty then [0] else c.counts)

end PrefixCode

end MetricArchive.Deflate
