import ParkFusion.Document

namespace ParkFusion.Document

/-- The named parts of a record. A record is written as a table, where a part may be left out and
other entries are skipped, or as the list of its parts in order, where only parts at the end may be
left out and only those that have a default. -/
structure Record where
  parts : List (String × Document)
  listed : Bool

/-- What a list may hold beyond the parts of a record. -/
inductive Surplus
  | refused
  | skipped
  deriving DecidableEq

namespace Record

variable {α : Type}

def read (surplus : Surplus) (names : List String) : Document → Option Record
  | .table entries =>
    let parts := entries.filter (names.contains ·.1)
    if (parts.map (·.1)).eraseDups.length = parts.length then some ⟨parts, false⟩ else none
  | .list items =>
    if items.length ≤ names.length || surplus = .skipped then some ⟨names.zip items, true⟩ else none
  | _ => none

def required (r : Record) (name : String) (item : Document → Option α) : Option α :=
  (r.parts.lookup name).bind item

/-- A part that may be null, and in a table also missing. -/
def optional (r : Record) (name : String) (item : Document → Option α) : Option (Option α) :=
  match r.parts.lookup name with
  | some d => d.optional? item
  | none => if r.listed then none else some none

/-- A part that may be missing but is not null. -/
def orElse (r : Record) (name : String) (default : α) (item : Document → Option α) : Option α :=
  match r.parts.lookup name with
  | some d => item d
  | none => some default

end Record

end ParkFusion.Document
