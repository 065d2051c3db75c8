import MetricArchive.Number.Binary64

/-!
# Shortest decimal digits

`shortest` gives the least number of significant decimal digits that still rounds to a given
positive number, and of several such numerals the nearest. The search is exact: a numeral
rounds to the number when it lies between the two midpoints to the neighbours, the midpoints
included when the significand is even.
-/
namespace MetricArchive.Binary64

/-- The closed or open interval that rounds to a number, with all three points over one
denominator. -/
structure RoundingInterval where
  low : Nat
  value : Nat
  high : Nat
  denominator : Nat
  closed : Bool
  deriving Repr

/-- Below a power of two the gap halves, except at the least exponent. -/
def roundingInterval (m : Nat) (e : Int) : RoundingInterval :=
  let lowGap := if m = leadingBit ∧ leastExponent < e then 1 else 2
  let s := scale 1 4 (-e)
  ⟨(4 * m - lowGap) * s.1, 4 * m * s.1, (4 * m + 2) * s.1, s.2, m % 2 == 0⟩

def RoundingInterval.contains (i : RoundingInterval) (num den : Nat) : Bool :=
  let x := num * i.denominator
  if i.closed then i.low * den ≤ x && x ≤ i.high * den
  else i.low * den < x && x < i.high * den

/-- A power of ten with any sign of exponent, as a ratio. -/
def tenPower (k : Int) : Nat × Nat :=
  if k < 0 then (1, tenTo (-k).toNat) else (tenTo k.toNat, 1)

/-- The multiple of `10 ^ k` in the interval that is nearest to the number, if there is one; of two
as near the even one. -/
def RoundingInterval.multiple? (i : RoundingInterval) (k : Int) : Option Nat :=
  let t := tenPower k
  let below := i.value * t.2 / (i.denominator * t.1)
  let nearest := roundQuotient (i.value * t.2) (i.denominator * t.1)
  let farther := if nearest = below then below + 1 else below
  [nearest, farther].find? fun n => i.contains (n * t.1) t.2

/-- The number of digits before the point of a positive ratio, not above zero below one. -/
def decimalMagnitude (num den : Nat) : Int :=
  let guess := (Nat.log2 num : Int) - Nat.log2 den
  let start := guess * 30103 / 100000 - 1
  let fits := fun k : Int => let t := tenPower k; num * t.2 < den * t.1
  ([start, start + 1, start + 2, start + 3].find? fits).getD (start + 4)

/-- Coefficient and exponent of the shortest numeral that rounds to `m * 2 ^ e`. -/
def shortest (m : Nat) (e : Int) : Nat × Int :=
  let i := roundingInterval m e
  let magnitude := decimalMagnitude i.value i.denominator
  let attempt := fun n : Nat =>
    let k := magnitude - (n : Int) - 1
    (i.multiple? k).map fun c => (c, k)
  ((List.range 17).findSome? attempt).getD (m, e)

end MetricArchive.Binary64
