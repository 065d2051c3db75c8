/-!
# Binary floating-point numbers of 64 bits

Values are exact: a finite number is a sign, a significand and a power of two, and every
operation computes an exact rational first and then rounds once, to nearest with ties to the even
significand. There is one NaN. `word` gives the interchange encoding.
-/
namespace MetricArchive

/-- Rounding yields a significand below 2^53 that is at least 2^52 unless the exponent is the
least one, so each value has one form. -/
inductive Binary64 where
  | nan
  | infinite (negative : Bool)
  | finite (negative : Bool) (significand : Nat) (exponent : Int)
  deriving DecidableEq, Repr

namespace Binary64

def leastExponent : Int := -1074

def greatestExponent : Int := 971

/-- The bit that every significand has, small numbers apart. -/
def leadingBit : Nat := 0x10000000000000

def signBit : Nat := 0x8000000000000000

def twoTo (n : Nat) : Nat := Nat.pow 2 n

def tenTo (n : Nat) : Nat := Nat.pow 10 n

def zero : Binary64 := .finite false 0 leastExponent

instance : Inhabited Binary64 := ⟨zero⟩

def isNaN : Binary64 → Bool
  | .nan => true
  | _ => false

/-- The quotient rounded to the nearest natural number, a tie to the even one. -/
def roundQuotient (n d : Nat) : Nat :=
  let q := n / d
  let r := n % d
  if 2 * r < d then q
  else if 2 * r > d then q + 1
  else q + q % 2

/-- A ratio divided by a power of two, as a ratio. -/
def scale (num den : Nat) (e : Int) : Nat × Nat :=
  if e < 0 then (num * twoTo (-e).toNat, den) else (num, den * twoTo e.toNat)

/-- The exponent at which a positive ratio has a significand of 53 bits, or the least exponent. -/
def exponentFor (num den : Nat) : Int :=
  let guess : Int := (Nat.log2 num : Int) - (Nat.log2 den : Int) - 52
  let s := scale num den guess
  max leastExponent (if s.1 / s.2 < leadingBit then guess - 1 else guess)

/-- The number nearest to a ratio with a sign. -/
def ofRatio (negative : Bool) (num den : Nat) : Binary64 :=
  if num = 0 then .finite negative 0 leastExponent
  else
    let e := exponentFor num den
    let s := scale num den e
    let m := roundQuotient s.1 s.2
    let (m, e) := if m = 2 * leadingBit then (leadingBit, e + 1) else (m, e)
    if greatestExponent < e then .infinite negative else .finite negative m e

def ofRat (r : Rat) : Binary64 := ofRatio (r.num < 0) r.num.natAbs r.den

def ofInt (n : Int) : Binary64 := ofRatio (n < 0) n.natAbs 1

/-- A significand times a power of two, with a sign. -/
def exact (negative : Bool) (m : Nat) (e : Int) : Rat :=
  let magnitude := if e < 0 then mkRat m (twoTo (-e).toNat) else mkRat (m * twoTo e.toNat : Nat) 1
  if negative then -magnitude else magnitude

def toRat? : Binary64 → Option Rat
  | .finite negative m e => some (exact negative m e)
  | _ => none

/-- The number nearest to `coefficient * 10 ^ exponent`. Beyond the bounds tested first the result
is an infinity or a zero, and no large power is computed. -/
def ofDecimal (negative : Bool) (coefficient : Nat) (exponent : Int) : Binary64 :=
  if coefficient = 0 then .finite negative 0 leastExponent
  else if 0 ≤ exponent then
    if 400 < exponent then .infinite negative
    else ofRatio negative (coefficient * tenTo exponent.toNat) 1
  else if (Nat.log2 coefficient : Int) + 1 + 3 * exponent < -1100 then
    .finite negative 0 leastExponent
  else ofRatio negative coefficient (tenTo (-exponent).toNat)

/-- The interchange encoding: sign, biased exponent and fraction. -/
def word : Binary64 → Nat
  | .nan => 0x7ff8000000000000
  | .infinite negative => (if negative then signBit else 0) + 0x7ff0000000000000
  | .finite negative m e =>
    (if negative then signBit else 0) +
      (if m < leadingBit then m else (e + 1075).toNat * leadingBit + (m - leadingBit))

def ofWord (w : Nat) : Binary64 :=
  let negative := w / signBit % 2 == 1
  let exponent : Nat := w / leadingBit % 2048
  let fraction := w % leadingBit
  if exponent = 2047 then if fraction = 0 then .infinite negative else .nan
  else if exponent = 0 then .finite negative fraction leastExponent
  else .finite negative (leadingBit + fraction) ((exponent : Int) - 1075)

/-- Both zeros become the positive one. -/
def dropZeroSign : Binary64 → Binary64
  | .finite _ 0 e => .finite false 0 e
  | x => x

def neg : Binary64 → Binary64
  | .nan => .nan
  | .infinite s => .infinite !s
  | .finite s m e => .finite (!s) m e

/-- A sum of zeros is negative only if both are; any other exact zero is positive. -/
def add : Binary64 → Binary64 → Binary64
  | .nan, _ => .nan
  | _, .nan => .nan
  | .infinite s, .infinite t => if s = t then .infinite s else .nan
  | .infinite s, .finite .. => .infinite s
  | .finite .., .infinite t => .infinite t
  | .finite s m e, .finite t n f =>
    if m = 0 ∧ n = 0 then .finite (s && t) 0 leastExponent
    else ofRat (exact s m e + exact t n f)

/-- The sign of a product is decided by the signs of the factors, also when it is zero. -/
def mul : Binary64 → Binary64 → Binary64
  | .nan, _ => .nan
  | _, .nan => .nan
  | .infinite s, .infinite t => .infinite (s != t)
  | .infinite s, .finite t n _ => if n = 0 then .nan else .infinite (s != t)
  | .finite s m _, .infinite t => if m = 0 then .nan else .infinite (s != t)
  | .finite s m e, .finite t n f =>
    let p := scale (m * n) 1 (-(e + f))
    ofRatio (s != t) p.1 p.2

instance : Neg Binary64 := ⟨neg⟩
instance : Add Binary64 := ⟨add⟩
instance : Sub Binary64 := ⟨fun x y => add x (neg y)⟩
instance : Mul Binary64 := ⟨mul⟩

/-- Strict order; no NaN is less or greater than anything. -/
def less : Binary64 → Binary64 → Bool
  | .nan, _ => false
  | _, .nan => false
  | .infinite s, .infinite t => s && !t
  | .infinite s, .finite .. => s
  | .finite .., .infinite t => !t
  | .finite s m e, .finite t n f => decide (exact s m e < exact t n f)

instance : LT Binary64 := ⟨fun x y => less x y = true⟩

instance (x y : Binary64) : Decidable (x < y) := inferInstanceAs (Decidable (less x y = true))

end Binary64

end MetricArchive
