import ParkFusion.Live
import ParkFusion.Unicode.Blank

namespace ParkFusion

def equalInAnyCase (a b : String) : Bool :=
  a.toList.map Char.toLower = b.toList.map Char.toLower

/-- The status for a word of a source, in any case and with blanks around it. A word that is not in
the table means closed. -/
def Status.ofTable (table : List (String × Status)) (word : String) : Status :=
  ((table.find? fun entry ↦ equalInAnyCase entry.1 (Unicode.trim word)).map (·.2)).getD .closed

end ParkFusion
