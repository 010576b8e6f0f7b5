import ParkFusion.Hex
import ParkFusion.Json.Numeral

namespace ParkFusion.Json

def isSpace (c : Char) : Bool :=
  c = ' ' || c = '\n' || c = '\t' || c = '\r'

def skipSpace (cs : List Char) : List Char :=
  cs.dropWhile isSpace

def takeHex4 : List Char → Option (Nat × List Char)
  | a :: b :: c :: d :: rest => do
    let ds ← [a, b, c, d].mapM Hex.digit?
    return (Hex.ofDigits ds, rest)
  | _ => none

/-- The character of an escape, after its backslash. Two escapes may form one character; one half
alone names none. -/
def takeEscape : List Char → Option (Option Char × List Char)
  | '"' :: rest => some (some '"', rest)
  | '\\' :: rest => some (some '\\', rest)
  | '/' :: rest => some (some '/', rest)
  | 'b' :: rest => some (some '\x08', rest)
  | 'f' :: rest => some (some '\x0c', rest)
  | 'n' :: rest => some (some '\n', rest)
  | 'r' :: rest => some (some '\r', rest)
  | 't' :: rest => some (some '\t', rest)
  | 'u' :: rest => do
    let (first, rest) ← takeHex4 rest
    if first < 0xD800 || 0xDFFF < first then return (some (Char.ofNat first), rest)
    else if 0xDC00 ≤ first then return (none, rest)
    else
      match rest with
      | '\\' :: 'u' :: tail =>
        let (second, tail) ← takeHex4 tail
        if 0xDC00 ≤ second && second ≤ 0xDFFF then
          return (some (Char.ofNat (0x10000 + (first - 0xD800) * 0x400 + (second - 0xDC00))), tail)
        else return (none, tail)
      | _ => return (none, rest)
  | _ => none

/-- The rest of a string after its opening quote: its characters, latest first, and whether every
escape named one. -/
def takeString : Nat → List Char → List Char → Bool → Option (List Char × Bool × List Char)
  | 0, _, _, _ => none
  | fuel + 1, cs, read, valid =>
    match cs with
    | [] => none
    | '"' :: rest => some (read, valid, rest)
    | '\\' :: rest =>
      match takeEscape rest with
      | some (some c, rest) => takeString fuel rest (c :: read) valid
      | some (none, rest) => takeString fuel rest read false
      | none => none
    | c :: rest => if c.toNat < 0x20 then none else takeString fuel rest (c :: read) valid

def takeWord (word : String) (value : Document) (cs : List Char) : Option (Document × List Char) :=
  let w := word.toList
  if cs.take w.length = w then some (value, cs.drop w.length) else none

mutual

def takeValue : Nat → List Char → Option (Document × List Char)
  | 0, _ => none
  | fuel + 1, cs =>
    match skipSpace cs with
    | '\x7b' :: rest =>
      match skipSpace rest with
      | '\x7d' :: rest => some (.table [], rest)
      | rest => (takeEntries fuel rest).map fun (entries, valid, rest) ↦
        (if valid then .table entries else .valueless, rest)
    | '[' :: rest =>
      match skipSpace rest with
      | ']' :: rest => some (.list [], rest)
      | rest => (takeItems fuel rest).map fun (items, rest) ↦ (.list items, rest)
    | '"' :: rest => (takeString (rest.length + 1) rest [] true).map fun (read, valid, rest) ↦
        (if valid then .text (String.ofList read.reverse) else .valueless, rest)
    | 't' :: rest => takeWord "true" (.bool true) ('t' :: rest)
    | 'f' :: rest => takeWord "false" (.bool false) ('f' :: rest)
    | 'n' :: rest => takeWord "null" .null ('n' :: rest)
    | rest => (takeNumeral rest).map fun (n, rest) ↦ (n.toDocument, rest)

def takeItems : Nat → List Char → Option (List Document × List Char)
  | 0, _ => none
  | fuel + 1, cs => do
    let (item, cs) ← takeValue fuel cs
    match skipSpace cs with
    | ',' :: rest =>
      let (items, rest) ← takeItems fuel rest
      return (item :: items, rest)
    | ']' :: rest => return ([item], rest)
    | _ => none

/-- The entries of a table up to its closing brace, and whether every key is a text. -/
def takeEntries : Nat → List Char → Option (List (String × Document) × Bool × List Char)
  | 0, _ => none
  | fuel + 1, cs =>
    match skipSpace cs with
    | '"' :: cs => do
      let (read, valid, cs) ← takeString (cs.length + 1) cs [] true
      match skipSpace cs with
      | ':' :: cs =>
        let (value, cs) ← takeValue fuel cs
        let entry := (String.ofList read.reverse, value)
        match skipSpace cs with
        | ',' :: rest =>
          let (entries, others, rest) ← takeEntries fuel rest
          return (entry :: entries, valid && others, rest)
        | '\x7d' :: rest => return ([entry], valid, rest)
        | _ => none
      | _ => none
    | _ => none

end

/-- Reads one JSON value that fills the whole text. -/
def read? (s : String) : Option Document :=
  let cs := s.toList
  match takeValue (2 * cs.length + 2) cs with
  | some (value, rest) => if (skipSpace rest).isEmpty then some value else none
  | none => none

end ParkFusion.Json
