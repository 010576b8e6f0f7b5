import ParkFusion.Toml.Scalar
import ParkFusion.Toml.Table

namespace ParkFusion.Toml

mutual

/-- A value at a depth of nesting. -/
def takeValue : Nat → Nat → List Char → Option (Document × List Char)
  | 0, _, _ => none
  | fuel + 1, depth, cs =>
    match cs with
    | '[' :: rest =>
      if depthLimit ≤ depth + 1 then none
      else (takeItems fuel (depth + 1) (skipLines rest.length rest)).map fun (items, rest) ↦
        (.list items, rest)
    | '\x7b' :: rest =>
      if depthLimit ≤ depth + 1 then none
      else match skipSpace rest with
        | '\x7d' :: rest => some (.table [], rest)
        | rest => (takePairs fuel (depth + 1) rest .empty).map fun (t, rest) ↦
            (t.toDocument, rest)
    | cs => takeScalar cs

/-- The items of an array up to its end. A comma may follow the last one. -/
def takeItems : Nat → Nat → List Char → Option (List Document × List Char)
  | 0, _, _ => none
  | fuel + 1, depth, cs =>
    match cs with
    | ']' :: rest => some ([], rest)
    | cs => do
      let (item, cs) ← takeValue fuel depth cs
      match skipLines cs.length cs with
      | ',' :: rest =>
        let (items, rest) ← takeItems fuel depth (skipLines rest.length rest)
        return (item :: items, rest)
      | ']' :: rest => return ([item], rest)
      | _ => none

/-- The entries of a table on one line, up to its end. -/
def takePairs : Nat → Nat → List Char → Table → Option (Table × List Char)
  | 0, _, _, _ => none
  | fuel + 1, depth, cs, t => do
    let ((path, key), cs) ← takeKey cs
    match cs with
    | '=' :: cs =>
      let (value, cs) ← takeValue fuel depth (skipSpace cs)
      let t ← t.insert path key value
      match skipSpace cs with
      | ',' :: rest => takePairs fuel depth rest t
      | '\x7d' :: rest => return (t, rest)
      | _ => none
    | _ => none

end

/-- A header, with the doubled brackets of an array or without: its key. -/
def takeHeader (cs : List Char) : Option (Bool × (List String × String) × List Char) :=
  match cs with
  | '[' :: '[' :: rest => do
    let (key, rest) ← takeKey rest
    match rest with
    | ']' :: ']' :: rest => return (true, key, rest)
    | _ => none
  | '[' :: rest => do
    let (key, rest) ← takeKey rest
    match rest with
    | ']' :: rest => return (false, key, rest)
    | _ => none
  | _ => none

/-- Reads the lines of a text into a table. The open path leads to the table under whose header they
stand. -/
def readLines : Nat → List Char → List String → Table → Option Table
  | 0, _, _, _ => none
  | fuel + 1, cs, openPath, root =>
    match skipLines cs.length cs with
    | [] => some root
    | '[' :: rest => do
      let (next, (path, key), rest) ← takeHeader ('[' :: rest)
      let rest ← takeLineEnd rest
      let root ← if next then root.openNext path key else root.openTable path key
      readLines fuel rest (path ++ [key]) root
    | rest => do
      let ((path, key), rest) ← takeKey rest
      match rest with
      | '=' :: rest =>
        let (value, rest) ← takeValue (2 * rest.length + 2) 0 (skipSpace rest)
        let rest ← takeLineEnd rest
        let root ← root.change false (Table.insert path key value) openPath
        readLines fuel rest openPath root
      | _ => none

/-- Reads a TOML text. A byte order mark may stand before it. -/
def read? (s : String) : Option Document :=
  let cs := match s.toList with
    | '\ufeff' :: rest => rest
    | cs => cs
  (readLines (cs.length + 1) cs [] .empty).map Table.toDocument

end ParkFusion.Toml
