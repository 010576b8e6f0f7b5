import ParkFusion.Instant.Calendar
import ParkFusion.Decimal.Fixed
import ParkFusion.Decimal.Nearest
import ParkFusion.Unicode.Blank

namespace ParkFusion.Instant

open Decimal Unicode

def takeMark (mark : Char) : List Char → Option (List Char)
  | c :: rest => if c = mark then some rest else none
  | [] => none

/-- The leading digits, at least `least` and at most `most` of them. -/
def takeNumber (least most : Nat) (cs : List Char) : Option (Nat × List Char) :=
  let ds := (takeDigits cs).1.take most
  if ds.length < least then none else some (ofDigits ds, cs.drop ds.length)

/-- Nanoseconds after a point; digits after the ninth are dropped. No point means none. -/
def takeFraction : List Char → Option (Nat × List Char)
  | '.' :: rest =>
    let (ds, rest) := takeDigits rest
    let kept := ds.take 9
    if kept.isEmpty then none else some (ofDigits kept * Nat.pow 10 (9 - kept.length), rest)
  | rest => some (0, rest)

/-- Seconds by which a clock runs ahead: `Z`, or a sign, hours and minutes with `between` consuming
what stands between them. -/
def takeOffset (between : List Char → Option (List Char)) :
    List Char → Option (Int × List Char)
  | [] => none
  | c :: rest =>
    if c = 'Z' || c = 'z' then some (0, rest)
    else if c = '+' || c = '-' || c = '\u2212' then do
      let (hours, rest) ← takeNumber 2 2 rest
      let rest ← between rest
      let (minutes, rest) ← takeNumber 2 2 rest
      if 60 ≤ minutes || 24 ≤ hours then none
      else
        let size : Int := hours * 3600 + minutes * 60
        return (if c = '+' then size else -size, rest)
    else none

/-- Whether the character may separate a date from a time. -/
def isSeparator (c : Char) : Bool :=
  c = 'T' || c = 't' || c = ' '

/-- A timestamp of RFC 3339. A blank may stand for the `T`. -/
def ofRfc3339? (s : String) : Option Instant := do
  let (year, cs) ← takeNumber 4 4 s.toList
  let cs ← takeMark '-' cs
  let (month, cs) ← takeNumber 2 2 cs
  let cs ← takeMark '-' cs
  let (day, cs) ← takeNumber 2 2 cs
  let separator :: cs := cs | none
  if !isSeparator separator then none
  let (hour, cs) ← takeNumber 2 2 cs
  let cs ← takeMark ':' cs
  let (minute, cs) ← takeNumber 2 2 cs
  let cs ← takeMark ':' cs
  let (second, cs) ← takeNumber 2 2 cs
  let (nano, cs) ← takeFraction cs
  let (offset, cs) ← takeOffset (takeMark ':') cs
  if !cs.isEmpty then none
  ofClock? year month day hour minute second nano offset

/-- A year of up to four digits, or of any length after a sign. -/
def takeYear (cs : List Char) : Option (Int × List Char) :=
  match trimLeft cs with
  | '-' :: rest => (takeNumber 1 rest.length rest).map fun (n, rest) ↦ (-n, rest)
  | '+' :: rest => (takeNumber 1 rest.length rest).map fun (n, rest) ↦ (n, rest)
  | rest => (takeNumber 1 4 rest).map fun (n, rest) ↦ (n, rest)

/-- One or two digits after any blanks. -/
def takeShort (cs : List Char) : Option (Nat × List Char) :=
  takeNumber 1 2 (trimLeft cs)

/-- A timestamp as records hold it: blanks may stand between its parts, leading zeros may be left
out, a signed year may be long, and `UTC` may stand for `Z`. -/
def ofRelaxed? (s : String) : Option Instant := do
  let (year, cs) ← takeYear s.toList
  let cs ← takeMark '-' (trimLeft cs)
  let (month, cs) ← takeShort cs
  let cs ← takeMark '-' (trimLeft cs)
  let (day, cs) ← takeShort cs
  let separator :: cs := cs | none
  if !isSeparator separator then none
  let (hour, cs) ← takeShort cs
  let cs ← takeMark ':' (trimLeft cs)
  let (minute, cs) ← takeShort cs
  let cs ← takeMark ':' (trimLeft cs)
  let (second, cs) ← takeShort cs
  let (nano, cs) ← takeFraction cs
  let cs := trimLeft cs
  let (offset, cs) ←
    if String.ofList ((cs.take 3).map Char.toUpper) = "UTC" then some (0, cs.drop 3)
    else takeOffset (fun cs ↦ some (cs.dropWhile fun c ↦ c = ':' || isBlank c)) cs
  if !(trimLeft cs).isEmpty || year < -262143 || 262142 < year then none
  ofClock? year month day hour minute second nano offset

def pad2 (n : Nat) : List Char :=
  padLeft 2 '0' n.repr.toList

/-- A year of at least four digits, with a sign unless it has exactly four and is not negative. -/
def yearText (year : Int) : List Char :=
  let digits := padLeft 4 '0' year.natAbs.repr.toList
  if year < 0 then '-' :: digits else if 9999 < year then '+' :: digits else digits

/-- Three, six or nine decimals, as few as are exact; none for a whole second. -/
def fractionText (nano : Nat) : List Char :=
  if nano = 0 then []
  else if nano % 1000000 = 0 then '.' :: padLeft 3 '0' (nano / 1000000).repr.toList
  else if nano % 1000 = 0 then '.' :: padLeft 6 '0' (nano / 1000).repr.toList
  else '.' :: padLeft 9 '0' nano.repr.toList

/-- The timestamp in UTC. A leap second is written as second 60. -/
def toText (t : Instant) : String :=
  let (year, month, day) := civil t.day
  let second := t.second % 60 + t.nano / 1000000000
  String.ofList <|
    yearText year ++ '-' :: pad2 month ++ '-' :: pad2 day ++ 'T' :: pad2 (t.second / 3600) ++
      ':' :: pad2 (t.second / 60 % 60) ++ ':' :: pad2 second ++
      fractionText (t.nano % 1000000000) ++ ['Z']

end ParkFusion.Instant
