import ParkFusion.Instant

namespace ParkFusion

/-- What one source says about the wait for one entity, and when it saw it. -/
structure WaitSample where
  source : String
  wait : UInt32
  observedAt : Instant
  deriving DecidableEq, Repr

/-- Waits for one entity that lie too far apart. -/
structure WaitDiscrepancy where
  entityName : String
  spread : UInt32
  values : List (String × UInt32)
  deriving DecidableEq, Repr

namespace WaitDiscrepancy

def least : List UInt32 → UInt32
  | [] => 0
  | w :: ws => ws.foldl min w

def greatest : List UInt32 → UInt32
  | [] => 0
  | w :: ws => ws.foldl max w

/-- The samples seen within so many seconds of the newest one. -/
def recent (samples : List WaitSample) (window : Int) : List WaitSample :=
  match Instant.latest? (samples.map (·.observedAt)) with
  | some newest => samples.filter fun s ↦ newest.within window s.observedAt
  | none => []

/-- Reports recent waits, at least two of them, that spread over more than the threshold. -/
def check? (entityName : String) (samples : List WaitSample) (window : Int) (threshold : UInt32) :
    Option WaitDiscrepancy :=
  let kept := recent samples window
  let waits := kept.map (·.wait)
  let spread := greatest waits - least waits
  if kept.length < 2 || spread ≤ threshold then none
  else some ⟨entityName, spread, kept.map fun s ↦ (s.source, s.wait)⟩

end WaitDiscrepancy

end ParkFusion
