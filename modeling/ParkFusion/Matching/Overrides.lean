import ParkFusion.Name

namespace ParkFusion.Matching

/-- Names that an operator has declared identical: the declared pairs of keys, each in both
directions and each direction once. -/
structure Overrides where
  entries : List (String × String) := []
  deriving DecidableEq, Repr

namespace Overrides

def add (o : Overrides) (entry : String × String) : Overrides :=
  if o.entries.contains entry then o else ⟨o.entries ++ [entry]⟩

/-- Declares two names identical. A name without letters and numbers is ignored. -/
def insert (o : Overrides) (a b : String) : Overrides :=
  let a := Name.key a
  let b := Name.key b
  if a.isEmpty || b.isEmpty then o else (o.add (a, b)).add (b, a)

def ofPairs (pairs : List (String × String)) : Overrides :=
  pairs.foldl (fun o (a, b) ↦ o.insert a b) {}

def contains (o : Overrides) (a b : String) : Bool :=
  o.entries.contains (Name.key a, Name.key b)

def isEmpty (o : Overrides) : Bool :=
  o.entries.isEmpty

/-- Half the number of directions. A name declared identical with itself has only one. -/
def size (o : Overrides) : Nat :=
  o.entries.length / 2

end Overrides

end ParkFusion.Matching
