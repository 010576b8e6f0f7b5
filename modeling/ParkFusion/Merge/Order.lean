import ParkFusion.Entries

namespace ParkFusion.Merge

variable {α : Type}

/-- The entries whose ids are listed first, in the order of the list; the others follow by id. -/
def order : List String → List (String × α) → List (String × α)
  | [], entries => Entries.sort entries
  | id :: ids, entries =>
    match entries.lookup id with
    | some value => (id, value) :: order ids (entries.filter (·.1 ≠ id))
    | none => order ids entries

end ParkFusion.Merge
