namespace ParkFusion.Unicode

/-- Whether a code point lies in one of the ranges, given by their first and last code points. -/
def within (ranges : List (Nat × Nat)) (n : Nat) : Bool :=
  ranges.any fun (first, last) ↦ first ≤ n && n ≤ last

end ParkFusion.Unicode
