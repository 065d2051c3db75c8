/-!
# Checksums

Two sums over bytes that tell whether data came through unharmed: the cyclic redundancy check of 32
bits, and a pair of sums modulo the greatest prime below two to the sixteenth.
-/
namespace MetricArchive.Deflate

/-- The check after one more bit of the data. -/
def shiftCheck (c : UInt32) : UInt32 := if c % 2 == 1 then (c >>> 1) ^^^ 0xedb88320 else c >>> 1

def cyclicStep (c : UInt32) (b : UInt8) : UInt32 := Nat.repeat shiftCheck 8 (c ^^^ b.toUInt32)

def cyclicCheck (bytes : List UInt8) : Nat :=
  (bytes.foldl cyclicStep 0xffffffff ^^^ 0xffffffff).toNat

def sumModulus : Nat := 65521

/-- The sum of the bytes and the sum of its values, in one number. -/
def pairCheck (bytes : List UInt8) : Nat :=
  let (a, b) := bytes.foldl (fun (a, b) byte =>
    let a := (a + byte.toNat) % sumModulus
    (a, (b + a) % sumModulus)) (1, 0)
  b * 0x10000 + a

end MetricArchive.Deflate
