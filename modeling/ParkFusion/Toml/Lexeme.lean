import ParkFusion.Hex

namespace ParkFusion.Toml

def isSpace (c : Char) : Bool :=
  c = ' ' || c = '\t'

def skipSpace (cs : List Char) : List Char :=
  cs.dropWhile isSpace

def takeNewline : List Char → Option (List Char)
  | '\n' :: rest => some rest
  | '\r' :: '\n' :: rest => some rest
  | _ => none

/-- Characters that stand for themselves: the tab, and all that is no control character. -/
def isPlain (c : Char) : Bool :=
  c = '\t' || (0x20 ≤ c.toNat && c.toNat ≠ 0x7F)

/-- Drops a comment, up to the end of its line. -/
def skipComment : List Char → List Char
  | '#' :: rest => rest.dropWhile isPlain
  | cs => cs

/-- The rest of a line on which nothing but a comment may follow. -/
def takeLineEnd (cs : List Char) : Option (List Char) :=
  match skipComment (skipSpace cs) with
  | [] => some []
  | cs => takeNewline cs

/-- Drops blanks, line ends and comments. -/
def skipLines : Nat → List Char → List Char
  | 0, cs => cs
  | fuel + 1, cs =>
    match skipComment (skipSpace cs) with
    | '\n' :: rest => skipLines fuel rest
    | '\r' :: '\n' :: rest => skipLines fuel rest
    | cs => cs

/-- Drops blanks and line ends. -/
def skipBlanks : Nat → List Char → List Char
  | 0, cs => cs
  | fuel + 1, cs =>
    match takeNewline (skipSpace cs) with
    | some rest => skipBlanks fuel rest
    | none => skipSpace cs

/-- The character with a code of so many hexadecimal digits. -/
def takeCode (digits : Nat) (cs : List Char) : Option (Char × List Char) := do
  let ds ← (cs.take digits).mapM Hex.digit?
  let code := Hex.ofDigits ds
  if ds.length = digits ∧ code.isValidChar then some (Char.ofNat code, cs.drop digits) else none

/-- The character of an escape, after its backslash. -/
def takeEscape : List Char → Option (Char × List Char)
  | 'b' :: rest => some ('\x08', rest)
  | 't' :: rest => some ('\t', rest)
  | 'n' :: rest => some ('\n', rest)
  | 'f' :: rest => some ('\x0c', rest)
  | 'r' :: rest => some ('\r', rest)
  | '"' :: rest => some ('"', rest)
  | '\\' :: rest => some ('\\', rest)
  | 'u' :: rest => takeCode 4 rest
  | 'U' :: rest => takeCode 8 rest
  | _ => none

/-- The rest of a string on one line, after its opening quote. Only in double quotes a backslash
escapes. -/
def takeLine (quote : Char) : Nat → List Char → Option (List Char × List Char)
  | 0, _ => none
  | _, [] => none
  | fuel + 1, c :: rest =>
    if c = quote then some ([], rest)
    else if c = '\\' && quote = '"' then do
      let (c, rest) ← takeEscape rest
      let (cs, rest) ← takeLine quote fuel rest
      return (c :: cs, rest)
    else if isPlain c then
      (takeLine quote fuel rest).map fun (cs, rest) ↦ (c :: cs, rest)
    else none

/-- The rest of a string over several lines, after its three opening quotes. Up to two quotes may
stand inside, also right before the closing ones. A backslash at the end of a line takes away what
is blank after it. -/
def takeLinesOf (quote : Char) : Nat → List Char → Option (List Char × List Char)
  | 0, _ => none
  | fuel + 1, cs =>
    match takeNewline cs with
    | some rest => (takeLinesOf quote fuel rest).map fun (cs, rest) ↦ ('\n' :: cs, rest)
    | none =>
      match cs with
      | [] => none
      | c :: rest =>
        if c = quote then
          let run := (cs.takeWhile (· = quote)).length
          if run < 3 then (takeLinesOf quote fuel rest).map fun (cs, rest) ↦ (c :: cs, rest)
          else
            let inside := min (run - 3) 2
            some (List.replicate inside quote, cs.drop (inside + 3))
        else if c = '\\' && quote = '"' then
          match takeNewline (skipSpace rest) with
          | some rest => takeLinesOf quote fuel (skipBlanks rest.length rest)
          | none => do
            let (c, rest) ← takeEscape rest
            let (cs, rest) ← takeLinesOf quote fuel rest
            return (c :: cs, rest)
        else if isPlain c then
          (takeLinesOf quote fuel rest).map fun (cs, rest) ↦ (c :: cs, rest)
        else none

/-- A string of any of the four kinds. -/
def takeText : List Char → Option (List Char × List Char)
  | '"' :: '"' :: '"' :: rest =>
    takeLinesOf '"' (rest.length + 1) ((takeNewline rest).getD rest)
  | '\'' :: '\'' :: '\'' :: rest =>
    takeLinesOf '\'' (rest.length + 1) ((takeNewline rest).getD rest)
  | '"' :: rest => takeLine '"' (rest.length + 1) rest
  | '\'' :: rest => takeLine '\'' (rest.length + 1) rest
  | _ => none

def isBare (c : Char) : Bool :=
  c.isAlphanum || c = '_' || c = '-'

/-- One part of a key: a string on one line, or bare. -/
def takePart : List Char → Option (String × List Char)
  | '"' :: rest => (takeLine '"' (rest.length + 1) rest).map fun (cs, rest) ↦
      (String.ofList cs, rest)
  | '\'' :: rest => (takeLine '\'' (rest.length + 1) rest).map fun (cs, rest) ↦
      (String.ofList cs, rest)
  | cs =>
    let part := cs.takeWhile isBare
    if part.isEmpty then none else some (String.ofList part, cs.drop part.length)

/-- Nothing may nest so deep, neither values nor the parts of a key. -/
def depthLimit : Nat := 80

/-- The parts of a key, with points between them. -/
def takeParts : Nat → List Char → Option (List String × List Char)
  | 0, _ => none
  | fuel + 1, cs => do
    let (part, cs) ← takePart (skipSpace cs)
    match skipSpace cs with
    | '.' :: rest =>
      let (parts, rest) ← takeParts fuel rest
      return (part :: parts, rest)
    | rest => return ([part], rest)

/-- A key: the tables that it goes through and the name of its last part. -/
def takeKey (cs : List Char) : Option ((List String × String) × List Char) := do
  let (parts, rest) ← takeParts (depthLimit - 1) cs
  return ((parts.dropLast, ← parts.getLast?), rest)

end ParkFusion.Toml
