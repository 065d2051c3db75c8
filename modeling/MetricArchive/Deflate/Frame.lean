import MetricArchive.Deflate.Block
import MetricArchive.Deflate.Checksum

/-!
# Frames around compressed data

Compressed data comes bare or in a frame of one of two kinds: a header of two bytes and a checksum
behind, or a header that may hold a name and a comment and a checksum with the length behind. What
stands behind the frame is not looked at. Data that ends too early gives what it holds.
-/
namespace MetricArchive.Deflate

open Reader

inductive Frame where
  | bare
  | short
  | long
  deriving DecidableEq, Repr

/-- Leaves out bytes up to the first that is zero. -/
def skipText : (fuel : Nat) → Reader Unit
  | 0 => throw .ended
  | fuel + 1 => do if (← readByte) != 0 then skipText fuel

/-- Reads the header of a long frame, which may end with a sum over itself. -/
def readLongHeader (bytes : List UInt8) : Reader Unit := do
  require .header ((← readNumber 16) == 0x8b1f)
  let flags ← readNumber 16
  require .method (flags % 0x100 == 8)
  require .headerFlags (flags / 0x2000 == 0)
  let _ ← readNumber 48
  if flags.testBit 10 then (← readNumber 16).forM fun _ _ => do let _ ← readByte
  if flags.testBit 11 then skipText bytes.length
  if flags.testBit 12 then skipText bytes.length
  if flags.testBit 9 then
    let header := bytes.take (bytes.length - (← get).bits.length / 8)
    require .headerSum ((← readNumber 16) == cyclicCheck header % 0x10000)

def readShortHeader : Reader Unit := do
  let first ← readNumber 8
  let second ← readNumber 8
  require .header ((first * 0x100 + second) % 31 == 0)
  require .method (first % 16 == 8)
  require .windowSize (first / 16 ≤ 7)
  if second.testBit 5 then
    let _ ← readNumber 32
    fail .dictionary

def readLongTrailer : Reader Unit := do
  align
  let output := (← get).output
  require .dataSum ((← readNumber 32) == cyclicCheck output.toList)
  require .dataLength ((← readNumber 32) == output.size % 0x100000000)

def readShortTrailer : Reader Unit := do
  align
  let output := (← get).output
  let sum ← (List.range 4).foldlM (fun n _ => do return n * 0x100 + (← readNumber 8)) 0
  require .dataSum (sum == pairCheck output.toList)

def readFrame (f : Frame) (bytes : List UInt8) : Reader Unit := do
  match f with
  | .bare => pure ()
  | .short => readShortHeader
  | .long => readLongHeader bytes
  readBlocks (8 * bytes.length)
  match f with
  | .bare => pure ()
  | .short => readShortTrailer
  | .long => readLongTrailer

def decompress (f : Frame) (bytes : List UInt8) : Except Fault (List UInt8) :=
  match StateT.run (ExceptT.run (readFrame f bytes)) ⟨bytes.flatMap byteBits, #[]⟩ with
  | (.error (.broken fault), _) => .error fault
  | (_, p) => .ok p.output.toList

end MetricArchive.Deflate
