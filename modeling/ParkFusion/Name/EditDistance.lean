namespace ParkFusion.Name

/-- One row of the table of edit distances: `left` is the distance before the first character of the
row, `above` the row before it. -/
def editRow (c : Char) : Nat → List Char → List Nat → List Nat
  | left, d :: ds, diagonal :: up :: above =>
    let best := min (min left up + 1) (if c = d then diagonal else diagonal + 1)
    best :: editRow c best ds (up :: above)
  | _, _, _ => []

/-- Rows for the characters of the first text, each counted from the end of the row before. -/
def editRows (b : List Char) : List Char → List Nat → List Nat
  | [], row => row
  | c :: cs, row =>
    let first := row.headD 0 + 1
    editRows b cs (first :: editRow c first b row)

/-- The least number of insertions, deletions and replacements between two texts. -/
def editDistance (a b : List Char) : Nat :=
  (editRows b a (List.range (b.length + 1))).getLastD 0

end ParkFusion.Name
