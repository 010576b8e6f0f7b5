import ParkFusion.Entries

namespace ParkFusion

/-- A tree of values, as JSON and TOML texts describe one. Entries of a table keep their order, and
a key may repeat. -/
inductive Document
  | null
  | bool (value : Bool)
  | integer (value : Int)
  | real (value : Float)
  | text (value : String)
  | list (items : List Document)
  | table (entries : List (String × Document))
  /-- Well formed but without a value, as an escape that names no character and a number beyond the
  doubles are. It can be skipped and is nothing else. -/
  | valueless

namespace Document

variable {α : Type}

def text? : Document → Option String
  | text s => some s
  | _ => none

def bool? : Document → Option Bool
  | bool b => some b
  | _ => none

def natBelow? (bound : Nat) : Document → Option Nat
  | integer (.ofNat n) => if n < bound then some n else none
  | _ => none

def uint8? (d : Document) : Option UInt8 :=
  (d.natBelow? UInt8.size).map UInt8.ofNat

def uint32? (d : Document) : Option UInt32 :=
  (d.natBelow? UInt32.size).map UInt32.ofNat

def uint64? (d : Document) : Option UInt64 :=
  (d.natBelow? UInt64.size).map UInt64.ofNat

/-- The double nearest to an integer of at most 64 bits. -/
def floatOfInt (n : Int) : Float :=
  let size := n.natAbs.toUInt64.toFloat
  if n < 0 then -size else size

def float? : Document → Option Float
  | real x => some x
  | integer n => some (floatOfInt n)
  | _ => none

def list? (item : Document → Option α) : Document → Option (List α)
  | list items => items.mapM item
  | _ => none

/-- The entries of a table; of several entries with one key the last one stands. -/
def map? (item : Document → Option α) : Document → Option (List (String × α))
  | table entries => do
    let all ← entries.mapM fun (key, value) ↦ (item value).map (key, ·)
    return Entries.keepLast all
  | _ => none

/-- A value that may be absent. -/
def optional? (item : Document → Option α) : Document → Option (Option α)
  | null => some none
  | d => (item d).map some

/-- One of finitely many words. A table whose only entry has the word as key and nothing as value
says the same. -/
def word? (words : List (String × α)) : Document → Option α
  | text s => words.lookup s
  | table [(s, null)] => words.lookup s
  | _ => none

def ofOption (write : α → Document) (value : Option α) : Document :=
  (value.map write).getD null

def ofNat (n : Nat) : Document :=
  integer n

def ofTexts (texts : List String) : Document :=
  list (texts.map text)

end Document

end ParkFusion
