import ParkFusion.Decimal.Fixed

namespace ParkFusion.Decimal

/-- The value `digits * 10 ^ exponent`. -/
structure Scientific where
  digits : Nat
  exponent : Int
  deriving DecidableEq, Repr

/-- Zeros between the point and the first decimal digit of a quotient below one, up to a bound. -/
def leadingZeros (den : Nat) : Nat → Nat → Nat
  | 0, _ => 0
  | bound + 1, num => if den ≤ 10 * num then 0 else leadingZeros den bound (10 * num) + 1

/-- The place above the first decimal digit of a positive quotient: it lies below
`10 ^ magnitude` and not below a tenth of that. -/
def magnitude (num den : Nat) : Int :=
  if den ≤ num then (num / den).repr.length else -(leadingZeros den 400 num : Int)

/-- Whether `digits * 10 ^ exponent` reads back as the double `mantissa * 2 ^ power`: whether it lies
between the midpoints to the two neighbouring doubles, ends included for an even mantissa. -/
def readsBack (mantissa : Nat) (power : Int) (candidate : Scientific) : Bool :=
  let quarter := power - 2
  let below := if mantissa = Binary.hiddenBit && power ≠ -1074 then 1 else 2
  let (num, den) := Binary.fraction 1 quarter
  let value := candidate.digits * Nat.pow 10 candidate.exponent.toNat * den
  let unit := num * Nat.pow 10 (-candidate.exponent).toNat
  let low := (4 * mantissa - below) * unit
  let high := (4 * mantissa + 2) * unit
  if mantissa % 2 = 0 then low ≤ value && value ≤ high else low < value && value < high

/-- The nearer of the two points of the grid `10 ^ exponent` around the double that read back as it;
a tie goes to the even one. -/
def onGrid (mantissa : Nat) (power exponent : Int) : Option Scientific :=
  let (num, den) := Binary.fraction mantissa power
  let num := num * Nat.pow 10 (-exponent).toNat
  let den := den * Nat.pow 10 exponent.toNat
  let near := roundEven num den
  let other := if near = num / den then near + 1 else near - 1
  let good := fun digits ↦ readsBack mantissa power ⟨digits, exponent⟩
  if good near then some ⟨near, exponent⟩
  else if good other then some ⟨other, exponent⟩
  else none

def stripZeros : Nat → Scientific → Scientific
  | 0, s => s
  | fuel + 1, s =>
    if s.digits % 10 = 0 then stripZeros fuel ⟨s.digits / 10, s.exponent + 1⟩ else s

/-- The fewest digits that read back as `mantissa * 2 ^ power`, and of those the nearest.
Seventeen digits always do. -/
def shortest (mantissa : Nat) (power : Int) : Scientific :=
  if mantissa = 0 then ⟨0, 0⟩
  else
    let (num, den) := Binary.fraction mantissa power
    let top := magnitude num den
    let found := (List.range 17).findSome? fun n : Nat ↦ onGrid mantissa power (top - (n + 1))
    stripZeros 17 (found.getD ⟨0, 0⟩)

/-- Digits around a decimal point, without an exponent. -/
def positional (s : Scientific) : List Char :=
  if 0 ≤ s.exponent then s.digits.repr.toList ++ List.replicate s.exponent.toNat '0'
  else point (-s.exponent).toNat s.digits

def signed (negative : Bool) (digits : List Char) : String :=
  String.ofList (if negative then '-' :: digits else digits)

/-- A double in a message: its shortest digits, never with an exponent. -/
def plain (x : Float) : String :=
  match Binary.ofFloat x with
  | .undefined => "NaN"
  | .infinite negative => if negative then "-inf" else "inf"
  | .finite negative mantissa exponent => signed negative (positional (shortest mantissa exponent))

/-- A double in a JSON text: its shortest digits with a point, or with an exponent where the point
would stand more than sixteen places to the right or four to the left of the first digit. What is
no number is `null`. -/
def json (x : Float) : String :=
  match Binary.ofFloat x with
  | .finite negative mantissa exponent =>
    let s := shortest mantissa exponent
    let digits := s.digits.repr.toList
    let top : Int := digits.length + s.exponent
    signed negative <|
      if mantissa = 0 then ['0', '.', '0']
      else if 0 ≤ s.exponent && top ≤ 16 then positional s ++ ['.', '0']
      else if -5 < top && top ≤ 16 then positional s
      else
        let rest := digits.drop 1
        digits.take 1 ++ (if rest.isEmpty then [] else '.' :: rest) ++
          'e' :: (toString (top - 1)).toList
  | _ => "null"

end ParkFusion.Decimal
