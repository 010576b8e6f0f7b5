import ParkFusion.Live
import ParkFusion.Name
import ParkFusion.Wait
import ParkFusion.Wait.Discrepancy

namespace ParkFusion.Merge

/-- An entity while sources are merged into it. Only the first entity of a name has its key: a
second one of the same source stays apart and takes in nothing. -/
structure Merged where
  key : Option String
  live : LiveEntity
  waits : List WaitSample

def sampleOf (source : String) (entity : LiveEntity) (observedAt : Instant) : List WaitSample :=
  match entity.waitTime with
  | some wait => [⟨source, wait, observedAt⟩]
  | none => []

def seed (key : Option String) (source : String) (entity : LiveEntity) (observedAt : Instant) :
    Merged :=
  ⟨key, { entity with provenance := [source] }, sampleOf source entity observedAt⟩

def later (a b : Option Instant) : Option Instant :=
  match a, b with
  | some a, some b => some (max a b)
  | a, b => a.or b

namespace Merged

/-- Fills what is still missing and adds the wait to the samples. -/
def absorb (m : Merged) (source : String) (other : LiveEntity) (observedAt : Instant) : Merged :=
  { m with
    live := { m.live with
      provenance := m.live.provenance ++ [source]
      queues := if m.live.queues.isEmpty then other.queues else m.live.queues
      showtimes := m.live.showtimes.or other.showtimes
      dining := m.live.dining.or other.dining
      landExternalId := m.live.landExternalId.or other.landExternalId
      lastUpdated := later m.live.lastUpdated other.lastUpdated }
    waits := m.waits ++ sampleOf source other observedAt }

def hasSource (m : Merged) (source : String) : Bool :=
  m.live.provenance.contains source

/-- The entity with the wait that its samples come to. -/
def finish (m : Merged) (rounding : UInt32) : LiveEntity :=
  { m.live with waitTime := Wait.resolve? (m.waits.map (·.wait)) rounding }

end Merged

/-- Merges one entity of a source into the list: into the one that has its key, unless that one has
an entity of this source already. -/
def place (source key : String) (entity : LiveEntity) (observedAt : Instant) :
    List Merged → List Merged
  | [] => [seed (some key) source entity observedAt]
  | m :: rest =>
    if m.key = some key then
      if m.hasSource source then m :: (rest ++ [seed none source entity observedAt])
      else m.absorb source entity observedAt :: rest
    else m :: place source key entity observedAt rest

def addReport (merged : List Merged) (entry : String × LiveReport) : List Merged :=
  entry.2.entities.foldl (fun merged e ↦
    place entry.1 (Name.key e.name) e (e.lastUpdated.getD entry.2.fetchedAt) merged) merged

/-- Merges the entities of the reports, the first of them having the first word. -/
def mergeEntities (ordered : List (String × LiveReport)) : List Merged :=
  ordered.foldl addReport []

end ParkFusion.Merge
