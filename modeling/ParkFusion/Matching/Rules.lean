import ParkFusion.Matching
import ParkFusion.Matching.Overrides
import ParkFusion.Matching.Score

namespace ParkFusion.Matching

abbrev ParkRule := Rule Park Float
abbrev EntityRule := Rule Entity Float
abbrev ParkMatch := Match Park Float
abbrev EntityMatch := Match Entity Float

def declared (overrides : Overrides) (a b : String) : Bool :=
  !overrides.isEmpty && overrides.contains a b

def parkRule (threshold : Float) (overrides : Overrides) : ParkRule where
  compatible _ _ := true
  declared a b := Matching.declared overrides a.name b.name
  score := Park.score
  threshold := threshold
  certain := 1

/-- Entities of different types are never paired. -/
def entityRule (threshold : Float) (overrides : Overrides) : EntityRule where
  compatible a b := a.entityType = b.entityType
  declared a b := Matching.declared overrides a.name b.name
  score := Entity.score
  threshold := threshold
  certain := 1

end ParkFusion.Matching
