namespace ParkFusion.Entries

variable {α : Type}

/-- Of several entries with one key the last one stands. -/
def keepLast (entries : List (String × α)) : List (String × α) :=
  entries.foldl (fun kept entry ↦ kept.filter (·.1 ≠ entry.1) ++ [entry]) []

/-- By key, compared by UTF-8 bytes. -/
def sort (entries : List (String × α)) : List (String × α) :=
  entries.mergeSort fun a b ↦ !decide (b.1 < a.1)

end ParkFusion.Entries
