namespace ParkFusion.Decimal

/-- What the bits of a double say: an integer multiple of a power of two, or no number. -/
inductive Binary
  | finite (negative : Bool) (mantissa : Nat) (exponent : Int)
  | infinite (negative : Bool)
  | undefined
  deriving DecidableEq, Repr

namespace Binary

/-- The bit above the stored mantissa of a normal double, which is not stored: 2 to the 52. -/
def hiddenBit : Nat :=
  4503599627370496

def ofFloat (x : Float) : Binary :=
  let bits := x.toBits.toNat
  let negative := decide (9223372036854775808 ≤ bits)
  let scale : Nat := bits / hiddenBit % 2048
  let low : Nat := bits % hiddenBit
  if scale = 2047 then if low = 0 then infinite negative else undefined
  else if scale = 0 then finite negative low (-1074)
  else finite negative (hiddenBit + low) (scale - 1075)

/-- Numerator and denominator of `mantissa * 2 ^ exponent`. -/
def fraction (mantissa : Nat) (exponent : Int) : Nat × Nat :=
  (mantissa * Nat.pow 2 exponent.toNat, Nat.pow 2 (-exponent).toNat)

end Binary

/-- The integer nearest to a quotient; a half goes to the even neighbour. -/
def roundEven (num den : Nat) : Nat :=
  let floor := num / den
  let rest := 2 * (num % den)
  if rest < den then floor else if den < rest then floor + 1 else floor + floor % 2

/-- The integer nearest to a quotient; a half goes up. -/
def roundUp (num den : Nat) : Nat :=
  (2 * num + den) / (2 * den)

end ParkFusion.Decimal
