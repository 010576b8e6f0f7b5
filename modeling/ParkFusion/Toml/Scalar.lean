import ParkFusion.Decimal.Nearest
import ParkFusion.Document
import ParkFusion.Instant.Calendar
import ParkFusion.Toml.Lexeme

namespace ParkFusion.Toml

open Decimal

/-- Digits, between any two of which one underscore may stand. -/
def takeGrouped (digit? : Char → Option Nat) : List Char → Option (List Nat × List Char)
  | [] => none
  | c :: rest =>
    match digit? c with
    | none => none
    | some d =>
      match rest with
      | '_' :: tail => (takeGrouped digit? tail).map fun (ds, rest) ↦ (d :: ds, rest)
      | rest =>
        match takeGrouped digit? rest with
        | some (ds, rest) => some (d :: ds, rest)
        | none => if (rest.head?.bind digit?).isSome then none else some ([d], rest)

def digitBelow? (base : Nat) (c : Char) : Option Nat :=
  (Hex.digit? c).filter (· < base)

/-- An integer of 64 bits. -/
def integer? (negative : Bool) (base : Nat) (ds : List Nat) : Option Document :=
  let size : Nat := ds.foldl (fun n d ↦ base * n + d) 0
  let value : Int := if negative then -(size : Int) else size
  if -9223372036854775808 ≤ value && value < 9223372036854775808 then some (.integer value) else none

/-- The digits of a decimal integer. More than one begin with no zero. -/
def takeWhole (cs : List Char) : Option (List Nat × List Char) :=
  match cs with
  | '0' :: rest => some ([0], rest)
  | cs => takeGrouped digit? cs

/-- An exponent after its `e`. -/
def takeExponent (cs : List Char) : Option (Int × List Char) := do
  let (negative, cs) := takeSign cs
  let (ds, rest) ← takeGrouped digit? cs
  let size : Int := ofDigits ds
  return (if negative then -size else size, rest)

def isExponentMark (c : Char) : Bool :=
  c = 'e' || c = 'E'

/-- A decimal number after its sign. One with a point or an exponent is a double; it may be too great
only downwards. -/
def takeDecimal (negative : Bool) (cs : List Char) : Option (Document × List Char) := do
  let (whole, rest) ← takeWhole cs
  let real := fun (fraction : List Nat) (exponent : Int) (rest : List Char) ↦
    let x := nearest negative (ofDigits (whole ++ fraction)) (exponent - fraction.length)
    if x == 1 / 0 then none else some (Document.real x, rest)
  match rest with
  | '.' :: rest =>
    let (fraction, rest) ← takeGrouped digit? rest
    match rest with
    | c :: tail =>
      if isExponentMark c then
        let (exponent, rest) ← takeExponent tail
        real fraction exponent rest
      else real fraction 0 rest
    | [] => real fraction 0 []
  | c :: tail =>
    if isExponentMark c then
      let (exponent, rest) ← takeExponent tail
      real [] exponent rest
    else (integer? negative 10 whole).map (·, rest)
  | [] => (integer? negative 10 whole).map (·, [])

/-- A number: a decimal one with or without a sign, an integer in another base, or the words for
infinity and for no number. -/
def takeNumber : List Char → Option (Document × List Char)
  | '0' :: 'x' :: rest => takeBased 16 rest
  | '0' :: 'o' :: rest => takeBased 8 rest
  | '0' :: 'b' :: rest => takeBased 2 rest
  | cs =>
    let (negative, rest) := takeSign cs
    match rest with
    | 'i' :: 'n' :: 'f' :: rest => some (.real (if negative then -1 / 0 else 1 / 0), rest)
    | 'n' :: 'a' :: 'n' :: rest => some (.real (0 / 0), rest)
    | rest => takeDecimal negative rest
where
  takeBased (base : Nat) (cs : List Char) : Option (Document × List Char) := do
    let (ds, rest) ← takeGrouped (digitBelow? base) cs
    return (← integer? false base ds, rest)

/-- Exactly so many digits, for a number in a range. -/
def takeField (digits least most : Nat) (cs : List Char) : Option (Nat × List Char) := do
  let ds ← (cs.take digits).mapM digit?
  let n := ofDigits ds
  if ds.length = digits && least ≤ n && n ≤ most then some (n, cs.drop digits) else none

def takeMark (mark : Char) : List Char → Option (List Char)
  | c :: rest => if c = mark then some rest else none
  | [] => none

def skipDate (cs : List Char) : Option (List Char) := do
  let (year, cs) ← takeField 4 0 9999 cs
  let (month, cs) ← takeField 2 1 12 (← takeMark '-' cs)
  let (_, cs) ← takeField 2 1 (Instant.daysInMonth year month) (← takeMark '-' cs)
  return cs

def skipTime (cs : List Char) : Option (List Char) := do
  let (_, cs) ← takeField 2 0 23 cs
  let (_, cs) ← takeField 2 0 59 (← takeMark ':' cs)
  let (_, cs) ← takeField 2 0 60 (← takeMark ':' cs)
  match cs with
  | '.' :: rest => if (rest.head?.bind digit?).isSome then some (takeDigits rest).2 else none
  | cs => return cs

def skipOffset (cs : List Char) : Option (List Char) :=
  match cs with
  | [] => some []
  | c :: rest =>
    if c = 'Z' || c = 'z' then some rest
    else if c = '+' || c = '-' then do
      let (_, cs) ← takeField 2 0 23 rest
      let (_, cs) ← takeField 2 0 59 (← takeMark ':' cs)
      return cs
    else some (c :: rest)

/-- Whether a text begins as a date or a time of day does. -/
def looksTimed (cs : List Char) : Bool :=
  let digits := (cs.takeWhile Char.isDigit).length
  (digits = 4 && cs[4]? = some '-') || (digits = 2 && cs[2]? = some ':')

/-- A date, a time of day, or both, then perhaps with an offset. -/
def skipTimed (cs : List Char) : Option (List Char) :=
  if cs[2]? = some ':' then skipTime cs
  else do
    let rest ← skipDate cs
    match rest with
    | [] => return []
    | c :: tail =>
      if c = 'T' || c = 't' || c = ' ' then
        if tail[2]? = some ':' && (takeField 2 0 23 tail).isSome then skipOffset (← skipTime tail)
        else return rest
      else return rest

def takeWord (word : String) (value : Document) (cs : List Char) : Option (Document × List Char) :=
  if word.toList.isPrefixOf cs then some (value, cs.drop word.length) else none

/-- A date or a time of day. It is no text and no number; like a table it can only be skipped entry by
entry. -/
def timed : Document :=
  .table [("datetime", .valueless)]

/-- A value that is neither an array nor a table. -/
def takeScalar (cs : List Char) : Option (Document × List Char) :=
  match cs with
  | [] => none
  | c :: _ =>
    if c = '"' || c = '\'' then
      (takeText cs).map fun (text, rest) ↦ (.text (String.ofList text), rest)
    else if c = 't' then takeWord "true" (.bool true) cs
    else if c = 'f' then takeWord "false" (.bool false) cs
    else if looksTimed cs then (skipTimed cs).map (timed, ·)
    else takeNumber cs

end ParkFusion.Toml
