namespace ParkFusion.Hex

/-- The value of a hexadecimal digit, in any case. -/
def digit? (c : Char) : Option Nat :=
  if c.isDigit then some (c.toNat - '0'.toNat)
  else if 'a' ≤ c && c ≤ 'f' then some (c.toNat - 'a'.toNat + 10)
  else if 'A' ≤ c && c ≤ 'F' then some (c.toNat - 'A'.toNat + 10)
  else none

/-- The small digit of a value below sixteen. -/
def digit (n : Nat) : Char :=
  Char.ofNat (if n < 10 then '0'.toNat + n else 'a'.toNat + (n - 10))

def bigDigit (n : Nat) : Char :=
  (digit n).toUpper

def ofDigits (ds : List Nat) : Nat :=
  ds.foldl (fun n d ↦ 16 * n + d) 0

/-- The small digits of a number, so many of them. -/
def digits : Nat → Nat → List Char
  | 0, _ => []
  | count + 1, n => digits count (n / 16) ++ [digit (n % 16)]

end ParkFusion.Hex
