import MetricArchive.Deflate.PrefixCode

/-!
# Blocks of compressed data

Compressed data is a series of blocks. A block holds bytes as they are, or symbols in a prefix code.
A symbol is a byte, the end of the block, or the length of a piece of the output that is repeated;
how far back the piece starts follows in a code of its own. The two codes are fixed ones or stand in
front, given by the lengths of their words, which are compressed by a third code.
-/
namespace MetricArchive.Deflate

open Reader

structure BlockCodes where
  literals : PrefixCode
  distances : PrefixCode

def fixedCodes : BlockCodes :=
  ⟨.ofLengths (List.replicate 144 8 ++ List.replicate 112 9 ++ List.replicate 24 7 ++
      List.replicate 8 8), .ofLengths (List.replicate 32 5)⟩

/-- The order in which the word lengths of the code for word lengths are given. -/
def lengthOrder : List Nat := [16, 17, 18, 0, 8, 7, 9, 6, 10, 5, 11, 4, 12, 3, 13, 2, 14, 1, 15]

/-- A run of equal word lengths that a symbol stands for after others, which are given backwards. -/
def readRun (before : List Nat) (symbol : Nat) : Reader (List Nat) := do
  if symbol < 16 then return [symbol]
  else if symbol = 16 then
    match before with
    | [] => do
      let _ ← readNumber 2
      fail .lengthRepeat
    | last :: _ => return List.replicate (3 + (← readNumber 2)) last
  else if symbol = 17 then return List.replicate (3 + (← readNumber 3)) 0
  else return List.replicate (11 + (← readNumber 7)) 0

/-- Reads word lengths until there are so many. They are given and returned backwards. -/
def readLengths (c : PrefixCode) (total : Nat) : (fuel : Nat) → List Nat → Reader (List Nat)
  | 0, before => return before
  | fuel + 1, before => do
    if total ≤ before.length then return before
    else
      let run ← readRun before ((← c.read).getD 0)
      require .lengthRepeat (before.length + run.length ≤ total)
      readLengths c total fuel (run ++ before)

def readCodes : Reader BlockCodes := do
  let literals := (← readNumber 5) + 257
  let distances := (← readNumber 5) + 1
  let given := (← readNumber 4) + 4
  require .symbolCount (literals ≤ 286 && distances ≤ 30)
  let sizes ← (lengthOrder.take given).mapM fun symbol => do return (symbol, ← readNumber 3)
  let lengthCode := PrefixCode.ofLengths
    ((List.range lengthOrder.length).map fun symbol => (sizes.lookup symbol).getD 0)
  require .codeLengths (lengthCode.isComplete || lengthCode.isEmpty)
  let lengths := (← readLengths lengthCode (literals + distances) (literals + distances) []).reverse
  require .noBlockEnd (lengths[256]? != some 0)
  let codes : BlockCodes :=
    ⟨.ofLengths (lengths.take literals), .ofLengths (lengths.drop literals)⟩
  require .literalCode codes.literals.isUsable
  require .distanceCode codes.distances.isUsable
  return codes

/-- The least length of a repeated piece by symbol, and the bits that are added to it. -/
def lengthRanges : List (Nat × Nat) :=
  [(3, 0), (4, 0), (5, 0), (6, 0), (7, 0), (8, 0), (9, 0), (10, 0), (11, 1), (13, 1), (15, 1),
    (17, 1), (19, 2), (23, 2), (27, 2), (31, 2), (35, 3), (43, 3), (51, 3), (59, 3), (67, 4),
    (83, 4), (99, 4), (115, 4), (131, 5), (163, 5), (195, 5), (227, 5), (258, 0)]

/-- The least distance by symbol, and the bits that are added to it. -/
def distanceRanges : List (Nat × Nat) :=
  [(1, 0), (2, 0), (3, 0), (4, 0), (5, 1), (7, 1), (9, 2), (13, 2), (17, 3), (25, 3), (33, 4),
    (49, 4), (65, 5), (97, 5), (129, 6), (193, 6), (257, 7), (385, 7), (513, 8), (769, 8),
    (1025, 9), (1537, 9), (2049, 10), (3073, 10), (4097, 11), (6145, 11), (8193, 12), (12289, 12),
    (16385, 13), (24577, 13)]

/-- A number out of a range, if there is one. -/
def readFrom (f : Fault) : Option (Nat × Nat) → Reader Nat
  | none => fail f
  | some (least, bits) => do return least + (← readNumber bits)

def endSymbol : Nat := 256

/-- Repeats a piece of the output whose length has a symbol. -/
def readPiece (c : BlockCodes) (symbol : Nat) : Reader Unit := do
  let length ← readFrom .literal lengthRanges[symbol - (endSymbol + 1)]?
  let distance ← readFrom .distance ((← c.distances.read).bind fun d => distanceRanges[d]?)
  require .farDistance (distance ≤ (← get).output.size)
  writeAgain distance length

def readSymbols (c : BlockCodes) : (fuel : Nat) → Reader Unit
  | 0 => throw .ended
  | fuel + 1 => do
    match ← c.literals.read with
    | none => fail .literal
    | some symbol =>
      if symbol = endSymbol then return ()
      else
        if symbol < endSymbol then write (UInt8.ofNat symbol) else readPiece c symbol
        readSymbols c fuel

def readStored : Reader Unit := do
  align
  let length ← readNumber 16
  let complement ← readNumber 16
  require .storedLengths (length + complement == 0xffff)
  length.forM fun _ _ => do write (← readByte)

/-- Reads a block of a kind. Every symbol takes a bit at least. -/
def readBlock : (kind : Nat) → Reader Unit
  | 0 => readStored
  | 1 => do readSymbols fixedCodes (← get).bits.length
  | 2 => do
    let codes ← readCodes
    readSymbols codes (← get).bits.length
  | _ => fail .blockType

/-- Reads blocks up to the last, which is marked. -/
def readBlocks : (fuel : Nat) → Reader Unit
  | 0 => throw .ended
  | fuel + 1 => do
    let head ← readNumber 3
    readBlock (head / 2)
    if head % 2 == 1 then return () else readBlocks fuel

end MetricArchive.Deflate
