namespace ParkFusion.Decimal

/-- The double nearest to `digits * 10 ^ exponent`. What lies far outside the doubles is infinite or
zero without being computed. -/
def nearest (negative : Bool) (digits : Nat) (exponent : Int) : Float :=
  let top := digits.repr.length + exponent
  let size : Float :=
    if digits = 0 || top < -400 then 0
    else if 400 < top then 1 / 0
    else Float.ofScientific digits (exponent < 0) exponent.natAbs
  if negative then -size else size

def digit? (c : Char) : Option Nat :=
  if c.isDigit then some (c.toNat - '0'.toNat) else none

/-- The leading digits of a text, and what follows them. -/
def takeDigits (cs : List Char) : List Nat × List Char :=
  ((cs.takeWhile Char.isDigit).filterMap digit?, cs.dropWhile Char.isDigit)

def ofDigits (ds : List Nat) : Nat :=
  ds.foldl (fun n d ↦ 10 * n + d) 0

/-- Drops a sign; true for a minus. -/
def takeSign : List Char → Bool × List Char
  | '-' :: rest => (true, rest)
  | '+' :: rest => (false, rest)
  | rest => (false, rest)

def exponent? (cs : List Char) : Option Int :=
  match cs with
  | [] => some 0
  | c :: rest =>
    if c = 'e' || c = 'E' then
      let (negative, rest) := takeSign rest
      match takeDigits rest with
      | ([], _) => none
      | (ds, []) => some (if negative then -(ofDigits ds : Int) else ofDigits ds)
      | _ => none
    else none

/-- A decimal number: sign, digits with a point anywhere among them, exponent; or the words for
infinity and for no number, in any case. -/
def parse? (s : String) : Option Float :=
  let (negative, cs) := takeSign s.toList
  let word := String.ofList (cs.map Char.toLower)
  if word = "inf" || word = "infinity" then some (if negative then -1 / 0 else 1 / 0)
  else if word = "nan" then some (0 / 0)
  else
    let (whole, rest) := takeDigits cs
    let (fraction, rest) := match rest with
      | '.' :: rest => takeDigits rest
      | rest => ([], rest)
    if whole.isEmpty && fraction.isEmpty then none
    else (exponent? rest).map fun e ↦
      nearest negative (ofDigits (whole ++ fraction)) (e - fraction.length)

end ParkFusion.Decimal
