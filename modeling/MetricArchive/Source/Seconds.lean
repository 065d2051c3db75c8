import MetricArchive.Number.Layout

/-!
# Durations in seconds

A duration is a whole number or a fraction, as it was given; messages show it that way.
-/
namespace MetricArchive

inductive Seconds where
  | whole (n : Int)
  | fraction (x : Binary64)
  deriving DecidableEq, Repr

namespace Seconds

def value : Seconds → Binary64
  | .whole n => .ofInt n
  | .fraction x => x

def text : Seconds → String
  | .whole n => toString n
  | .fraction x => NumberLayout.plain.write x

def isPositive (s : Seconds) : Bool := Binary64.zero < s.value

def isZero (s : Seconds) : Bool :=
  match s.value with
  | .finite _ 0 _ => true
  | _ => false

end Seconds

end MetricArchive
