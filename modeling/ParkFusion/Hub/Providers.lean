import ParkFusion.Hub
import ParkFusion.Provider.QueueTimes
import ParkFusion.Provider.ThemeParksWiki
import ParkFusion.Provider.Wartezeiten

namespace ParkFusion

variable {m : Type → Type} [Monad m] [Clock m] [Network m] [MonadStateOf Quota.Memory m]

/-- The adapter of a provider, unless a time in its settings is out of range. The seat tells its own
window of the quota. -/
def Provider.adapter? (seat : Nat) (s : SourceSettings) : Provider → Option (Adapter m)
  | .themeParksWiki => some (ThemeParksWiki.adapter s)
  | .queueTimes => some (QueueTimes.adapter s)
  | .wartezeiten => (Wartezeiten.governor? s seat).map (Wartezeiten.adapter · s)

/-- The providers that are enabled. -/
def Settings.enabled (s : Settings) : List Provider :=
  Provider.all.filter fun provider ↦ (s.sources.get provider).enabled

/-- A hub with all providers that are enabled. -/
def Hub.ofProviders? (s : Settings) : Option (Hub m) := do
  let adapters ← s.enabled.mapM fun provider ↦ provider.adapter? 0 (s.sources.get provider)
  return .ofAdapters s adapters

end ParkFusion
