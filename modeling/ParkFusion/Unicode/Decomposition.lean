import ParkFusion.Unicode.Decomposition.Alphabet
import ParkFusion.Unicode.Decomposition.Sign
import ParkFusion.Unicode.Decomposition.Ideograph
import ParkFusion.Unicode.Decomposition.Presentation
import ParkFusion.Unicode.Decomposition.Plane

namespace ParkFusion.Unicode

/-- The conjoining letters of a composed Hangul syllable, counted from U+AC00. -/
def hangulParts (syllable : Nat) : List Nat :=
  let lead := 0x1100 + syllable / 588
  let vowel := 0x1161 + syllable % 588 / 28
  let tail := syllable % 28
  if tail = 0 then [lead, vowel] else [lead, vowel, 0x11A7 + tail]

def lookupParts (runs : List (Nat × Nat × Nat)) (sequences : List (Nat × List Nat)) (n : Nat) :
    List Nat :=
  match runs.find? fun (first, last, _) ↦ first ≤ n && n ≤ last with
  | some (first, _, target) => [target + (n - first)]
  | none => (sequences.lookup n).getD [n]

/-- The full compatibility decomposition of one code point. Marks are not put into canonical
order: names drop all of them. -/
def decompositionParts (n : Nat) : List Nat :=
  if n < 0xA0 then [n]
  else if n < 0x2000 then
    lookupParts Decomposition.Alphabet.runs Decomposition.Alphabet.sequences n
  else if n < 0x3400 then lookupParts Decomposition.Sign.runs Decomposition.Sign.sequences n
  else if 0xAC00 ≤ n && n ≤ 0xD7A3 then hangulParts (n - 0xAC00)
  else if n < 0xFB00 then lookupParts Decomposition.Ideograph.runs [] n
  else if n < 0x10000 then
    lookupParts Decomposition.Presentation.runs Decomposition.Presentation.sequences n
  else lookupParts Decomposition.Plane.runs Decomposition.Plane.sequences n

def decompose (c : Char) : List Char :=
  (decompositionParts c.toNat).map Char.ofNat

end ParkFusion.Unicode
