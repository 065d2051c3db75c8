/-!
# Reading compressed data

Compressed data is read bit by bit, the least bit of each byte first. Reading halts where the data
ends, which is no fault, or where it is broken. What has come out until then is kept either way.
-/
namespace MetricArchive.Deflate

inductive Fault where
  | header
  | method
  | headerFlags
  | headerSum
  | windowSize
  /-- The data was made with a dictionary, which no one has. -/
  | dictionary
  | blockType
  | storedLengths
  | symbolCount
  | codeLengths
  | lengthRepeat
  | noBlockEnd
  | literalCode
  | distanceCode
  | literal
  | distance
  | farDistance
  | dataSum
  | dataLength
  deriving DecidableEq, Repr

def Fault.reason : Fault → String
  | .header => "incorrect header check"
  | .method => "unknown compression method"
  | .headerFlags => "unknown header flags set"
  | .headerSum => "header crc mismatch"
  | .windowSize => "invalid window size"
  | .dictionary => "no dictionary"
  | .blockType => "invalid block type"
  | .storedLengths => "invalid stored block lengths"
  | .symbolCount => "too many length or distance symbols"
  | .codeLengths => "invalid code lengths set"
  | .lengthRepeat => "invalid bit length repeat"
  | .noBlockEnd => "invalid code -- missing end-of-block"
  | .literalCode => "invalid literal/lengths set"
  | .distanceCode => "invalid distances set"
  | .literal => "invalid literal/length code"
  | .distance => "invalid distance code"
  | .farDistance => "invalid distance too far back"
  | .dataSum => "incorrect data check"
  | .dataLength => "incorrect length check"

def Fault.message : Fault → String
  | .dictionary => "Error 2 while decompressing data"
  | f => "Error -3 while decompressing data: " ++ f.reason

/-- Why reading halts. -/
inductive Halt where
  | ended
  | broken (f : Fault)
  deriving DecidableEq, Repr

structure Progress where
  /-- The bits still to be read. They are whole bytes but for the one that is being read. -/
  bits : List Bool
  output : Array UInt8

abbrev Reader (α : Type) := ExceptT Halt (StateM Progress) α

def byteBits (b : UInt8) : List Bool := (List.range 8).map fun i => b.toNat.testBit i

def bitsValue (bits : List Bool) : Nat := bits.foldr (fun b n => 2 * n + b.toNat) 0

namespace Reader

def fail {α : Type} (f : Fault) : Reader α := throw (.broken f)

def require (f : Fault) (holds : Bool) : Reader Unit := if holds then pure () else fail f

def readNumber (count : Nat) : Reader Nat := do
  let bits := (← get).bits
  let taken := bits.take count
  if taken.length < count then throw .ended
  modify fun p => { p with bits := bits.drop count }
  return bitsValue taken

def readByte : Reader UInt8 := do return UInt8.ofNat (← readNumber 8)

/-- Leaves out the rest of a byte of which some bits have been read. -/
def align : Reader Unit := modify fun p => { p with bits := p.bits.drop (p.bits.length % 8) }

def write (b : UInt8) : Reader Unit := modify fun p => { p with output := p.output.push b }

/-- Writes so many of the bytes that were written so far ago, one after the other, so that some may
be among those just written. -/
def writeAgain (distance count : Nat) : Reader Unit :=
  count.forM fun _ _ =>
    modify fun p => { p with output := p.output.push (p.output.getD (p.output.size - distance) 0) }

end Reader

end MetricArchive.Deflate
