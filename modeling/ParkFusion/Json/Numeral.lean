import ParkFusion.Document
import ParkFusion.Decimal.Nearest

namespace ParkFusion.Json

open Decimal

/-- A number as a JSON text writes it. -/
structure Numeral where
  negative : Bool
  whole : List Nat
  fraction : List Nat
  exponent : Option Int

/-- The whole part, and after a point or an `e` at least one digit. -/
def takeNumeral (cs : List Char) : Option (Numeral × List Char) :=
  let (negative, cs) := match cs with
    | '-' :: rest => (true, rest)
    | rest => (false, rest)
  let (whole, cs) := takeDigits cs
  if whole.isEmpty || (whole.head? = some 0 && whole.length ≠ 1) then none
  else
    let fractional : Option (List Nat × List Char) := match cs with
      | '.' :: rest =>
        let (fraction, rest) := takeDigits rest
        if fraction.isEmpty then none else some (fraction, rest)
      | rest => some ([], rest)
    fractional.bind fun (fraction, cs) ↦
      match cs with
      | [] => some (⟨negative, whole, fraction, none⟩, [])
      | c :: rest =>
        if c = 'e' || c = 'E' then
          let (down, rest) := takeSign rest
          let (digits, rest) := takeDigits rest
          if digits.isEmpty then none
          else
            let size : Int := ofDigits digits
            some (⟨negative, whole, fraction, some (if down then -size else size)⟩, rest)
        else some (⟨negative, whole, fraction, none⟩, c :: rest)

/-- Appends digits while the number stays below 2 ^ 64; how many were appended. -/
def absorb (n : Nat) : List Nat → Nat × Nat
  | [] => (n, 0)
  | d :: ds =>
    if 10 * n + d < UInt64.size then
      let (n, count) := absorb (10 * n + d) ds
      (n, count + 1)
    else (n, 0)

/-- Scales by a power of ten in steps of at most 308 places, rounding at each; none beyond the
doubles. Four steps take any 64-bit number to zero. -/
def scale : Nat → Float → Int → Option Float
  | 0, _, _ => some 0
  | fuel + 1, x, exponent =>
    if exponent.natAbs ≤ 308 then
      let power := nearest false 1 exponent.natAbs
      if 0 ≤ exponent then
        let y := x * power
        if y.isInf then none else some y
      else some (x / power)
    else if x == 0 then some x
    else if 0 ≤ exponent then none
    else scale fuel (x / nearest false 1 308) (exponent + 308)

namespace Numeral

/-- The value as a double: the leading digits that fit 64 bits, scaled. The digits after the point
that do not fit are dropped. -/
def float? (n : Numeral) : Option Float :=
  let (significand, taken) := absorb 0 n.whole
  let (significand, places) := absorb significand n.fraction
  let exponent := (n.whole.length - taken : Int) - places + n.exponent.getD 0
  let size := if 2147483648 ≤ (n.exponent.getD 0).natAbs then
      if significand = 0 || n.exponent.getD 0 < 0 then some 0 else none
    else scale 4 significand.toUInt64.toFloat exponent
  size.map fun x ↦ if n.negative then -x else x

/-- An integer is a number without point and exponent that has 64 bits and is not minus zero. -/
def toDocument (n : Numeral) : Document :=
  let size := ofDigits n.whole
  let real := (n.float?.map Document.real).getD .valueless
  if n.fraction ≠ [] || n.exponent.isSome then real
  else if n.negative then
    if size = 0 || 9223372036854775808 < size then real else .integer (-(size : Int))
  else if size < UInt64.size then .integer size else real

end Numeral

end ParkFusion.Json
