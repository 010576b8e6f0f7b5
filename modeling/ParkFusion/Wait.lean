import ParkFusion.Decimal.Binary

namespace ParkFusion.Wait

/-- Waits and their roundings have 32 bits; what is greater becomes the greatest wait. -/
def saturate (n : Nat) : UInt32 :=
  UInt32.ofNat (min n (UInt32.size - 1))

def mean (a b : Nat) : Rat :=
  (a + b : Rat) / 2

/-- Middle of a sorted list, or the mean of the two middle ones. -/
def median (sorted : List Nat) : Rat :=
  let mid := sorted.length / 2
  let upper := sorted.getD mid 0
  if sorted.length % 2 = 0 then mean (sorted.getD (mid - 1) 0) upper else upper

def sort (values : List Nat) : List Nat :=
  values.mergeSort

/-- What several waits for one entity come to, before rounding: of three the one that two agree on,
otherwise the middle. -/
def consensus (waits : List UInt32) : Option Rat :=
  match waits.map UInt32.toNat with
  | [] => none
  | [a] => some a
  | [a, b] => some (mean a b)
  | [a, b, c] =>
    if a = b || a = c then some a
    else if b = c then some b
    else some ((sort [a, b, c]).getD 1 0 : Nat)
  | values => some (median (sort values))

/-- The nearest multiple of the step, halves up. No step is a step of one. -/
def roundToStep (value : Rat) (step : UInt32) : UInt32 :=
  let step := max step.toNat 1
  saturate ((value / step + 1 / 2).floor.toNat * step)

/-- The nearest multiple of the step to a double, halves away from zero; none is below zero, and what
is no number counts as zero. -/
def roundFloatToStep (value : Float) (step : UInt32) : UInt32 :=
  let quotient := if step = 0 then value else value / step.toFloat
  match Decimal.Binary.ofFloat quotient with
  | .undefined | .infinite true | .finite true _ _ => 0
  | .infinite false => saturate UInt32.size
  | .finite false mantissa exponent =>
    let (num, den) := Decimal.Binary.fraction mantissa exponent
    saturate (Decimal.roundUp num den * max step.toNat 1)

def resolve? (waits : List UInt32) (step : UInt32) : Option UInt32 :=
  (consensus waits).map (roundToStep · step)

end ParkFusion.Wait
