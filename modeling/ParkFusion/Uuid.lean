import ParkFusion.Hex

namespace ParkFusion

/-- An id of 128 bits. -/
structure Uuid where
  bits : BitVec 128
  deriving DecidableEq, Repr

namespace Uuid

def ofDigits? (cs : List Char) : Option Uuid :=
  if cs.length = 32 then
    (cs.mapM Hex.digit?).map fun ds ↦ ⟨BitVec.ofNat 128 (Hex.ofDigits ds)⟩
  else none

/-- Removes the hyphens of the written form, each from its place. -/
def unhyphenate? (cs : List Char) : Option (List Char) :=
  match cs.drop 8, cs.drop 13, cs.drop 18, cs.drop 23 with
  | '-' :: _, '-' :: _, '-' :: _, '-' :: rest =>
    some (cs.take 8 ++ (cs.drop 9).take 4 ++ (cs.drop 14).take 4 ++ (cs.drop 19).take 4 ++ rest)
  | _, _, _, _ => none

/-- Reads 32 digits in any case: bare, with hyphens, with hyphens in braces, or with hyphens after
`urn:uuid:`. -/
def ofText? (s : String) : Option Uuid :=
  let cs := s.toList
  if cs.length = 32 then ofDigits? cs
  else if cs.length = 36 then (unhyphenate? cs).bind ofDigits?
  else if cs.length = 38 then
    if cs.head? = some '\x7b' && cs.getLast? = some '\x7d' then
      (unhyphenate? (cs.drop 1).dropLast).bind ofDigits?
    else none
  else if cs.length = 45 && "urn:uuid:".toList.isPrefixOf cs then
    (unhyphenate? (cs.drop 9)).bind ofDigits?
  else none

/-- Small digits with hyphens after the eighth, twelfth, sixteenth and twentieth. -/
def toText (u : Uuid) : String :=
  let ds := Hex.digits 32 u.bits.toNat
  String.ofList <| ds.take 8 ++ '-' :: (ds.drop 8).take 4 ++ '-' :: (ds.drop 12).take 4 ++
    '-' :: (ds.drop 16).take 4 ++ '-' :: ds.drop 20

end Uuid

end ParkFusion
