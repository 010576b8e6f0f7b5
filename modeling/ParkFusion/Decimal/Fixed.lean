import ParkFusion.Decimal.Binary

namespace ParkFusion.Decimal

def padLeft (width : Nat) (fill : Char) (digits : List Char) : List Char :=
  List.replicate (width - digits.length) fill ++ digits

/-- A number of units of `10 ^ -places`, written with its point. -/
def point (places units : Nat) : List Char :=
  let whole := (units / Nat.pow 10 places).repr.toList
  if places = 0 then whole
  else whole ++ '.' :: padLeft places '0' (units % Nat.pow 10 places).repr.toList

/-- Fixed decimals of a double: its exact value to the nearest unit, a half to the even one. A value
that rounds to zero has no sign. -/
def fixed (places : Nat) (x : Float) : String :=
  match Binary.ofFloat x with
  | .undefined => "NaN"
  | .infinite negative => if negative then "-inf" else "inf"
  | .finite negative mantissa exponent =>
    let (num, den) := Binary.fraction mantissa exponent
    let units := roundEven (num * Nat.pow 10 places) den
    let digits := point places units
    String.ofList (if negative && units ≠ 0 then '-' :: digits else digits)

end ParkFusion.Decimal
