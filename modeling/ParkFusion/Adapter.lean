import ParkFusion.Failure
import ParkFusion.Live
import ParkFusion.Provider

namespace ParkFusion

/-- One source, brought to the common records. A park is asked for by the id that the source has for
it. -/
structure Adapter (m : Type → Type) where
  id : String
  completeness : UInt8
  capabilities : Capabilities := {}
  parks : m (Except Failure (List Park))
  entities (park : String) : m (Except Failure (List Entity))
  live (park : String) : m (Except Failure LiveReport)
  healthy : m (Except Failure Bool)

end ParkFusion
