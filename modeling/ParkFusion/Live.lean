import ParkFusion.Park
import ParkFusion.Instant

namespace ParkFusion

inductive Status
  | operating | down | closed | refurbishment
  deriving DecidableEq, Repr

/-- The ways to queue, in the order in which an entity lists them. -/
inductive QueueType
  | standby | singleRider | returnTime | paidReturnTime | boardingGroup
  deriving DecidableEq, Repr

namespace QueueType

def all : List QueueType := [standby, singleRider, returnTime, paidReturnTime, boardingGroup]

def position : QueueType → Nat
  | standby => 0
  | singleRider => 1
  | returnTime => 2
  | paidReturnTime => 3
  | boardingGroup => 4

end QueueType

structure Queue where
  queueType : QueueType
  waitTime : Option UInt32 := none
  returnStart : Option Instant := none
  returnEnd : Option Instant := none
  state : Option String := none
  price : Option String := none
  deriving DecidableEq, Repr

structure Showtime where
  showtimeType : Option String
  startTime : Option Instant
  endTime : Option Instant
  deriving DecidableEq, Repr

structure Dining where
  waitTime : Option UInt32
  acceptsReservations : Option Bool
  deriving DecidableEq, Repr

/-- The present state of one entity. The provenance names the sources that were merged into it and
is empty before any merge. -/
structure LiveEntity where
  externalId : String
  source : String
  entityType : EntityType
  name : String
  status : Status
  waitTime : Option UInt32 := none
  landExternalId : Option String := none
  queues : List Queue := []
  showtimes : Option (List Showtime) := none
  dining : Option Dining := none
  lastUpdated : Option Instant := none
  provenance : List String := []
  deriving DecidableEq, Repr

/-- A themed area with the external ids of its entities. -/
structure Land where
  externalId : String
  name : String
  entityExternalIds : List String
  deriving DecidableEq, Repr

structure CrowdLevel where
  level : Float
  timestamp : Option Instant
  deriving DecidableEq, Repr

structure OpeningHours where
  hoursType : String
  openingTime : Instant
  closingTime : Instant
  deriving DecidableEq, Repr

/-- All that one source, or the merge of several, says about a park at one time. -/
structure LiveReport where
  source : String
  parkExternalId : String
  entities : List LiveEntity := []
  lands : Option (List Land) := none
  crowdLevel : Option CrowdLevel := none
  openingHours : Option (List OpeningHours) := none
  fetchedAt : Instant
  deriving DecidableEq, Repr

end ParkFusion
