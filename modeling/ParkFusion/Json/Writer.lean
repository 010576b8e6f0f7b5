import ParkFusion.Document
import ParkFusion.Hex
import ParkFusion.Decimal.Shortest

namespace ParkFusion.Json

/-- One character inside quotes: the quote, the backslash and what lies below the blank are
escaped. -/
def escape (c : Char) : List Char :=
  match c with
  | '"' => ['\\', '"']
  | '\\' => ['\\', '\\']
  | '\x08' => ['\\', 'b']
  | '\x0c' => ['\\', 'f']
  | '\n' => ['\\', 'n']
  | '\r' => ['\\', 'r']
  | '\t' => ['\\', 't']
  | c =>
    if c.toNat < 0x20 then
      ['\\', 'u', '0', '0', Hex.digit (c.toNat / 16), Hex.digit (c.toNat % 16)]
    else [c]

def quote (s : String) : List Char :=
  '"' :: s.toList.flatMap escape ++ ['"']

def scalar : Document → List Char
  | .bool b => (if b then "true" else "false").toList
  | .integer n => (toString n).toList
  | .real x => (Decimal.json x).toList
  | .text s => quote s
  | _ => "null".toList

def joined (mark : List Char) : List (List Char) → List Char
  | [] => []
  | [last] => last
  | first :: rest => first ++ mark ++ joined mark rest

mutual

def compactChars : Document → List Char
  | .list items => '[' :: joined [','] (compactItems items) ++ [']']
  | .table entries => '\x7b' :: joined [','] (compactEntries entries) ++ ['\x7d']
  | d => scalar d

def compactItems : List Document → List (List Char)
  | [] => []
  | item :: items => compactChars item :: compactItems items

def compactEntries : List (String × Document) → List (List Char)
  | [] => []
  | (key, value) :: entries => (quote key ++ ':' :: compactChars value) :: compactEntries entries

end

/-- The text of a value without any blanks. -/
def compact (d : Document) : String :=
  String.ofList (compactChars d)

def newline (depth : Nat) : List Char :=
  '\n' :: List.replicate (2 * depth) ' '

mutual

def prettyChars (depth : Nat) : Document → List Char
  | .list [] => ['[', ']']
  | .list items =>
    let lines := prettyItems (depth + 1) items
    '[' :: newline (depth + 1) ++ joined (',' :: newline (depth + 1)) lines ++ newline depth ++ [']']
  | .table [] => ['\x7b', '\x7d']
  | .table entries =>
    let lines := prettyEntries (depth + 1) entries
    '\x7b' :: newline (depth + 1) ++ joined (',' :: newline (depth + 1)) lines ++ newline depth ++
      ['\x7d']
  | d => scalar d

def prettyItems (depth : Nat) : List Document → List (List Char)
  | [] => []
  | item :: items => prettyChars depth item :: prettyItems depth items

def prettyEntries (depth : Nat) : List (String × Document) → List (List Char)
  | [] => []
  | (key, value) :: entries =>
    (quote key ++ ':' :: ' ' :: prettyChars depth value) :: prettyEntries depth entries

end

/-- The text of a value with one item to a line, two blanks deeper at each level. -/
def pretty (d : Document) : String :=
  String.ofList (prettyChars 0 d)

end ParkFusion.Json
