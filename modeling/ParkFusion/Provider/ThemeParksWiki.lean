import ParkFusion.Adapter
import ParkFusion.Document.Record
import ParkFusion.Http.Client
import ParkFusion.Instant.Rfc3339
import ParkFusion.Live.Record
import ParkFusion.Live.Status
import ParkFusion.Settings

namespace ParkFusion.ThemeParksWiki

open Document

structure ParkRef where
  id : String
  name : String
  deriving DecidableEq, Repr

def ParkRef.ofDocument? (d : Document) : Option ParkRef := do
  let r ← Record.read .refused ["id", "name"] d
  return ⟨← r.required "id" text?, ← r.required "name" text?⟩

structure Destination where
  id : String
  parks : List ParkRef
  deriving DecidableEq, Repr

namespace Destination

def ofDocument? (d : Document) : Option Destination := do
  let r ← Record.read .refused ["id", "parks"] d
  return ⟨← r.required "id" text?, ← r.orElse "parks" [] (list? ParkRef.ofDocument?)⟩

def listOfDocument? (d : Document) : Option (List Destination) := do
  let r ← Record.read .refused ["destinations"] d
  r.required "destinations" (list? ofDocument?)

end Destination

structure Location where
  latitude : Option Float
  longitude : Option Float

def Location.ofDocument? (d : Document) : Option Location := do
  let r ← Record.read .refused ["latitude", "longitude"] d
  return ⟨← r.optional "latitude" float?, ← r.optional "longitude" float?⟩

/-- What is known of a park beyond its name. -/
structure Details where
  timezone : Option String
  location : Option Location

def Details.ofDocument? (d : Document) : Option Details := do
  let r ← Record.read .refused ["timezone", "location"] d
  return ⟨← r.optional "timezone" text?, ← r.optional "location" Location.ofDocument?⟩

/-- A park of a destination. Without details it has only its name. -/
def toPark (destination : String) (park : ParkRef) (details : Option Details) : Park :=
  let location := details.bind (·.location)
  { externalId := park.id
    source := Provider.themeParksWiki.id
    name := park.name
    timezone := details.bind (·.timezone)
    latitude := location.bind (·.latitude)
    longitude := location.bind (·.longitude)
    destinationId := some destination }

/-- The type that a word in any case names. There are types of no interest. -/
def entityType? (word : String) : Option EntityType :=
  (EntityType.words.find? fun entry ↦ equalInAnyCase entry.1 word).map (·.2)

structure Child where
  id : String
  name : String
  entityType : String
  parentId : Option String
  location : Option Location

namespace Child

def ofDocument? (d : Document) : Option Child := do
  let r ← Record.read .refused ["id", "name", "entityType", "parentId", "location"] d
  return {
    id := ← r.required "id" text?
    name := ← r.required "name" text?
    entityType := ← r.required "entityType" text?
    parentId := ← r.optional "parentId" text?
    location := ← r.optional "location" Location.ofDocument? }

def listOfDocument? (d : Document) : Option (List Child) := do
  let r ← Record.read .refused ["children"] d
  r.orElse "children" [] (list? ofDocument?)

def toEntity? (park : String) (c : Child) : Option Entity :=
  (entityType? c.entityType).map fun type ↦
    { externalId := c.id
      source := Provider.themeParksWiki.id
      name := c.name
      entityType := type
      parkExternalId := c.parentId.or (some park)
      latitude := c.location.bind (·.latitude)
      longitude := c.location.bind (·.longitude) }

end Child

/-- A queue as it stands under its type. -/
structure QueueEntry where
  waitTime : Option Float
  state : Option String
  returnStart : Option String
  returnEnd : Option String
  price : Option String
  deriving DecidableEq, Repr

def priceOfDocument? (d : Document) : Option (Option String) := do
  let r ← Record.read .refused ["formatted"] d
  r.optional "formatted" text?

def QueueEntry.ofDocument? (d : Document) : Option QueueEntry := do
  let r ← Record.read .refused ["waitTime", "state", "returnStart", "returnEnd", "price"] d
  return {
    waitTime := ← r.optional "waitTime" float?
    state := ← r.optional "state" text?
    returnStart := ← r.optional "returnStart" text?
    returnEnd := ← r.optional "returnEnd" text?
    price := (← r.optional "price" priceOfDocument?).join }

structure TimeEntry where
  type : Option String
  startTime : Option String
  endTime : Option String
  deriving DecidableEq, Repr

def TimeEntry.ofDocument? (d : Document) : Option TimeEntry := do
  let r ← Record.read .refused ["type", "startTime", "endTime"] d
  return {
    type := ← r.optional "type" text?
    startTime := ← r.optional "startTime" text?
    endTime := ← r.optional "endTime" text? }

/-- The wait of one slot of a restaurant. -/
def slotOfDocument? (d : Document) : Option (Option Float) := do
  let r ← Record.read .refused ["waitTime"] d
  r.optional "waitTime" float?

/-- The present state of one entity, its queues by the names of their types. -/
structure LiveItem where
  id : String
  name : String
  entityType : String
  status : Option String
  lastUpdated : Option String
  queue : Option (List (String × QueueEntry))
  showtimes : Option (List TimeEntry)
  dining : Option (List (Option Float))
  deriving DecidableEq, Repr

namespace LiveItem

def ofDocument? (d : Document) : Option LiveItem := do
  let r ← Record.read .refused ["id", "name", "entityType", "status", "lastUpdated", "queue",
    "showtimes", "diningAvailability"] d
  return {
    id := ← r.required "id" text?
    name := ← r.required "name" text?
    entityType := ← r.required "entityType" text?
    status := ← r.optional "status" text?
    lastUpdated := ← r.optional "lastUpdated" text?
    queue := ← r.optional "queue" (map? QueueEntry.ofDocument?)
    showtimes := ← r.optional "showtimes" (list? TimeEntry.ofDocument?)
    dining := ← r.optional "diningAvailability" (list? slotOfDocument?) }

def listOfDocument? (d : Document) : Option (List LiveItem) := do
  let r ← Record.read .refused ["liveData"] d
  r.orElse "liveData" [] (list? ofDocument?)

end LiveItem

/-- Whole minutes; what is negative or no number is no wait. -/
def minutes? (wait : Option Float) : Option UInt32 :=
  (wait.filter fun w ↦ w.isFinite && 0 ≤ w).map (Wait.roundFloatToStep · 1)

def instant? (s : Option String) : Option Instant :=
  s.bind Instant.ofRfc3339?

def toQueue (type : QueueType) (q : QueueEntry) : Queue :=
  { queueType := type
    waitTime := minutes? q.waitTime
    returnStart := instant? q.returnStart
    returnEnd := instant? q.returnEnd
    state := q.state
    price := q.price }

def toShowtime (t : TimeEntry) : Showtime :=
  ⟨t.type, instant? t.startTime, instant? t.endTime⟩

/-- The queues of known types, in the order of the types. -/
def queuesOf (entries : List (String × QueueEntry)) : List Queue :=
  (entries.filterMap fun (word, entry) ↦ (QueueType.words.lookup word).map (toQueue · entry))
    |>.mergeSort fun a b ↦ a.queueType.position ≤ b.queueType.position

/-- The wait of an entity is that of its standby queue. -/
def standbyWait (queues : List Queue) : Option UInt32 :=
  (queues.find? (·.queueType = .standby)).bind (·.waitTime)

def statusTable : List (String × Status) := Status.words

namespace LiveItem

def toLive? (item : LiveItem) : Option LiveEntity :=
  (entityType? item.entityType).map fun type ↦
    let queues := queuesOf (item.queue.getD [])
    { externalId := item.id
      source := Provider.themeParksWiki.id
      entityType := type
      name := item.name
      status := (item.status.map (Status.ofTable statusTable)).getD .closed
      waitTime := standbyWait queues
      queues := queues
      showtimes := item.showtimes.map (·.map toShowtime)
      dining := item.dining.map fun slots ↦ ⟨(slots.filterMap minutes?).min?, none⟩
      lastUpdated := instant? item.lastUpdated }

end LiveItem

structure ScheduleEntry where
  date : String
  type : String
  openingTime : String
  closingTime : String
  deriving DecidableEq, Repr

namespace ScheduleEntry

def ofDocument? (d : Document) : Option ScheduleEntry := do
  let r ← Record.read .refused ["date", "type", "openingTime", "closingTime"] d
  return {
    date := ← r.required "date" text?
    type := ← r.required "type" text?
    openingTime := ← r.required "openingTime" text?
    closingTime := ← r.required "closingTime" text? }

def listOfDocument? (d : Document) : Option (List ScheduleEntry) := do
  let r ← Record.read .refused ["schedule"] d
  r.orElse "schedule" [] (list? ofDocument?)

def toHours? (e : ScheduleEntry) : Option (String × OpeningHours) := do
  return (e.date,
    ⟨e.type, ← Instant.ofRfc3339? e.openingTime, ← Instant.ofRfc3339? e.closingTime⟩)

end ScheduleEntry

/-- The hours of the first date on which the park does not close before the present time. -/
def currentHours (entries : List ScheduleEntry) (now : Instant) : List OpeningHours :=
  let dated := entries.filterMap ScheduleEntry.toHours?
  match dated.find? fun entry ↦ now ≤ entry.2.closingTime with
  | some (date, _) => (dated.filter (·.1 = date)).map (·.2)
  | none => []

section

variable {m : Type → Type} [Monad m] [Clock m] [Network m] {α : Type}

def ask (s : SourceSettings) (decode : Document → Option α) (path : String) :
    m (Except Failure α) :=
  let client : Http.Client := ⟨Provider.themeParksWiki.id,
    Http.trimSlashes (s.baseUrl.getD Provider.themeParksWiki.defaultUrl)⟩
  s.backoff.run (client.get decode path [])

def askDestinations (s : SourceSettings) : m (Except Failure (List Destination)) :=
  ask s Destination.listOfDocument? "/destinations"

/-- A park with its details, as far as they can be had. -/
def askPark (s : SourceSettings) (destination : String) (park : ParkRef) : m Park :=
  return toPark destination park (← ask s Details.ofDocument? ("/entity/" ++ park.id)).toOption

def askParks (s : SourceSettings) : m (Except Failure (List Park)) := do
  match ← askDestinations s with
  | .error f => return .error f
  | .ok destinations =>
    let refs := destinations.flatMap fun d ↦ d.parks.map fun park ↦ (d.id, park)
    return .ok (← refs.mapM fun (destination, park) ↦ askPark s destination park)

/-- The current opening hours, as far as they can be had. -/
def askHours (s : SourceSettings) (park : String) : m (Option (List OpeningHours)) := do
  let schedule ← ask s ScheduleEntry.listOfDocument? ("/entity/" ++ park ++ "/schedule")
  let now ← Network.today
  let hours := currentHours (schedule.toOption.getD []) now
  return if hours.isEmpty then none else some hours

def askLive (s : SourceSettings) (park : String) : m (Except Failure LiveReport) := do
  match ← ask s LiveItem.listOfDocument? ("/entity/" ++ park ++ "/live") with
  | .error f => return .error f
  | .ok items =>
    let hours ← askHours s park
    return .ok {
      source := Provider.themeParksWiki.id
      parkExternalId := park
      entities := items.filterMap LiveItem.toLive?
      openingHours := hours
      fetchedAt := ← Network.today }

def adapter (s : SourceSettings) : Adapter m where
  id := Provider.themeParksWiki.id
  completeness := Provider.themeParksWiki.completeness
  capabilities := Provider.themeParksWiki.capabilities
  parks := askParks s
  entities park := do
    let children ← ask s Child.listOfDocument? ("/entity/" ++ park ++ "/children")
    return children.map (·.filterMap (Child.toEntity? park))
  live := askLive s
  healthy := return (← askDestinations s).map (!·.isEmpty)

end

end ParkFusion.ThemeParksWiki
