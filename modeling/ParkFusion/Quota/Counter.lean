import ParkFusion.Decimal.Nearest

namespace ParkFusion.Quota

/-- Why a text is no counter. -/
inductive CounterFault
  | empty | invalidDigit | tooLarge
  deriving DecidableEq, Repr

def CounterFault.message : CounterFault → String
  | empty => "cannot parse integer from empty string"
  | invalidDigit => "invalid digit found in string"
  | tooLarge => "number too large to fit in target type"

namespace Counter

/-- Appends decimal digits to a number of 64 bits. -/
def appendDigits (n : Nat) : List Char → Except CounterFault Nat
  | [] => .ok n
  | c :: cs =>
    match Decimal.digit? c with
    | none => .error .invalidDigit
    | some d => if 10 * n + d < UInt64.size then appendDigits (10 * n + d) cs else .error .tooLarge

/-- Reads a number of 64 bits: digits after at most one plus sign. -/
def read (s : String) : Except CounterFault Nat :=
  match s.toList with
  | [] => .error .empty
  | ['+'] => .error .invalidDigit
  | '+' :: cs => appendDigits 0 cs
  | cs => appendDigits 0 cs

/-- The next count; after the greatest number of 64 bits it is zero. -/
def next (n : Nat) : Nat :=
  (n + 1) % UInt64.size

end Counter

end ParkFusion.Quota
