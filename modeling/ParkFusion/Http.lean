import ParkFusion.Http.Url
import ParkFusion.Instant

namespace ParkFusion.Http

/-- A request for what stands at an address. -/
structure Request where
  url : Url
  headers : List (String × String)
  deriving DecidableEq, Repr

structure Reply where
  status : Nat
  headers : List (String × String) := []
  body : String := ""
  deriving DecidableEq, Repr

/-- The first value of a header, whose name is written in any case. -/
def Reply.header? (r : Reply) (name : String) : Option String :=
  (r.headers.find? fun h ↦ h.1.toList.map Char.toLower = name.toList.map Char.toLower).map (·.2)

end ParkFusion.Http

namespace ParkFusion

/-- A network, on which a request may stay without a reply, and a calendar. -/
class Network (m : Type → Type) where
  send (request : Http.Request) : m (Option Http.Reply)
  today : m Instant

instance {m : Type → Type} {σ : Type} [Monad m] [Network m] : Network (StateT σ m) where
  send request := StateT.lift (Network.send request)
  today := StateT.lift Network.today

end ParkFusion
