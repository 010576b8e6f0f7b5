import ParkFusion.Unicode.Decomposition
import ParkFusion.Unicode.Letter
import ParkFusion.Unicode.Lowercase
import ParkFusion.Unicode.Mark
import ParkFusion.Name.EditDistance

namespace ParkFusion.Name

open Unicode

/-- What a character without accents contributes to the key of a name. Everything but letters and
numbers separates words. -/
def fold (c : Char) : List Char :=
  if c = 'ß' then ['s', 's']
  else if c = 'æ' || c = 'Æ' then ['a', 'e']
  else if c = 'ø' || c = 'Ø' then ['o']
  else if c = '&' then [' ', 'a', 'n', 'd', ' ']
  else if isLetterOrNumber c then lowercase c
  else [' ']

/-- The stretches between blanks. -/
def words : List Char → List (List Char)
  | [] => []
  | c :: rest =>
    if c = ' ' then words rest
    else
      match rest.head?, words rest with
      | some d, word :: others => if d = ' ' then [c] :: word :: others else (c :: word) :: others
      | _, others => [c] :: others

def unwords : List (List Char) → List Char
  | [] => []
  | [word] => word
  | word :: others => word ++ ' ' :: unwords others

def keyChars (cs : List Char) : List Char :=
  unwords (words (((cs.flatMap decompose).filter (!isMark ·)).flatMap fold))

/-- The key under which names are compared: decomposed, without marks, in small letters, its words
apart by one blank. -/
def key (name : String) : String :=
  String.ofList (keyChars name.toList)

def occursIn (part : List Char) : List Char → Bool
  | [] => part.isEmpty
  | c :: rest => part.isPrefixOf (c :: rest) || occursIn part rest

/-- A name of more than so many characters counts as found again within a longer one. -/
def containmentLength : Nat := 5

/-- The least similarity of two names of which one contains the other. -/
def containmentFloor : Float := 0.9

/-- The share of the longer text that the edits leave. -/
def editSimilarity (a b : List Char) : Float :=
  1 - (editDistance a b).toFloat / (max a.length b.length).toFloat

/-- Similarity of two keys, from 0 to 1. A key without letters is like nothing, not even itself. -/
def keySimilarity (a b : List Char) : Float :=
  if a.isEmpty || b.isEmpty then 0
  else if a = b then 1
  else
    let base := editSimilarity a b
    let (short, long) := if a.length ≤ b.length then (a, b) else (b, a)
    if containmentLength < short.length && occursIn short long && base < containmentFloor then
      containmentFloor
    else base

def similarity (a b : String) : Float :=
  keySimilarity (keyChars a.toList) (keyChars b.toList)

end ParkFusion.Name
