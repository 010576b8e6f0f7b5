import ParkFusion.Adapter
import ParkFusion.Discovery.Entities
import ParkFusion.Discovery.Parks
import ParkFusion.Http
import ParkFusion.Merge
import ParkFusion.Settings

namespace ParkFusion

/-- The registered sources, and how their answers are matched and merged. -/
structure Hub (m : Type → Type) where
  adapters : List (Adapter m) := []
  matching : MatchingSettings := {}
  policy : Merge.Policy := {}

namespace Hub

variable {m : Type → Type}

def ofSettings (s : Settings) : Hub m where
  matching := s.matching
  policy := s.merge

def parkRule (hub : Hub m) : Matching.ParkRule :=
  Matching.parkRule hub.matching.parkThreshold hub.matching.overrideTable

def entityRule (hub : Hub m) : Matching.EntityRule :=
  Matching.entityRule hub.matching.entityThreshold hub.matching.overrideTable

def isRegistered (hub : Hub m) (id : String) : Bool :=
  hub.adapters.any (·.id = id)

/-- Registers a source, unless there is one of its id. -/
def register (hub : Hub m) (a : Adapter m) : Hub m :=
  if hub.isRegistered a.id then hub else { hub with adapters := hub.adapters ++ [a] }

/-- The hub on which some sources were registered one after the other. -/
def ofAdapters (s : Settings) (adapters : List (Adapter m)) : Hub m :=
  adapters.foldl register (.ofSettings s)

/-- Position in the priority; sources that are not in it come last. -/
def position (hub : Hub m) (a : Adapter m) : Nat :=
  hub.policy.priority.idxOf a.id

/-- By priority, then the richer one, then by id. -/
def ranksBefore (hub : Hub m) (a b : Adapter m) : Bool :=
  if hub.position a ≠ hub.position b then hub.position a < hub.position b
  else if a.completeness ≠ b.completeness then b.completeness < a.completeness
  else !decide (b.id < a.id)

def ranked (hub : Hub m) : List (Adapter m) :=
  hub.adapters.mergeSort hub.ranksBefore

def ranking (hub : Hub m) : List String :=
  hub.ranked.map (·.id)

def primary? (hub : Hub m) : Option String :=
  hub.ranking.head?

variable [Monad m]

/-- What the sources reply when they are asked for their parks, by rank. -/
def parkReplies (hub : Hub m) : m (List (String × Except Failure (List Park))) :=
  hub.ranked.mapM fun a ↦ return (a.id, ← a.parks)

/-- The parks of all sources, and one job for every group handed to the sink. -/
def discoverParks [Network m] (hub : Hub m) (sink : JobSink) : m (ParkDiscovery × JobSink) := do
  let replies ← hub.parkReplies
  let discovery := ParkDiscovery.ofReplies hub.parkRule replies
  let now ← Network.today
  return (discovery, (discovery.jobs now).foldl (fun sink job ↦ sink.enqueue job) sink)

/-- Those of some sources that know a park, with the ids that they have for it. -/
def knowing (ids : List (String × String)) (adapters : List (Adapter m)) :
    List (Adapter m × String) :=
  adapters.filterMap fun a ↦ (ids.lookup a.id).map (a, ·)

def discoverEntities (hub : Hub m) (ids : List (String × String)) : m EntityDiscovery := do
  let replies ← (knowing ids hub.ranked).mapM fun (a, park) ↦ return (a.id, ← a.entities park)
  return .ofReplies hub.entityRule replies

/-- The live data of all sources that know the park and answer, merged. -/
def resolve (hub : Hub m) (park : String) (ids : List (String × String)) :
    m (Except NoData Resolution) := do
  let replies ← (knowing ids hub.adapters).mapM fun (a, id) ↦ return (a.id, ← a.live id)
  let reports := replies.filterMap fun (id, reply) ↦ reply.toOption.map (id, ·)
  return if reports.isEmpty then .error ⟨park⟩ else Merge.resolve hub.policy hub.ranking reports

def live (hub : Hub m) (park : String) (ids : List (String × String)) :
    m (Except NoData LiveReport) :=
  return (← hub.resolve park ids).map (·.report)

/-- A source whose check fails is not healthy. -/
def health (hub : Hub m) : m (List (String × Bool)) :=
  hub.adapters.mapM fun a ↦ return (a.id, (← a.healthy).toOption.getD false)

end Hub

end ParkFusion
