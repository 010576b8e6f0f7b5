import ParkFusion.Adapter
import ParkFusion.Document.Record
import ParkFusion.Http.Client
import ParkFusion.Instant.Rfc3339
import ParkFusion.Live.Status
import ParkFusion.Quota.Governor
import ParkFusion.Settings

namespace ParkFusion.Wartezeiten

open Document

/-- A park with the country it lies in. -/
structure ListedPark where
  id : String
  name : String
  land : Option String
  deriving DecidableEq, Repr

namespace ListedPark

def ofDocument? (d : Document) : Option ListedPark := do
  let r ← Record.read .refused ["id", "name", "land"] d
  return ⟨← r.required "id" text?, ← r.required "name" text?, ← r.optional "land" text?⟩

def toPark (p : ListedPark) : Park :=
  { externalId := p.id
    source := Provider.wartezeiten.id
    name := p.name
    country := p.land }

end ListedPark

structure WaitEntry where
  code : String
  name : String
  waitTime : Option UInt32
  status : String
  seenAt : Option String
  deriving DecidableEq, Repr

def statusTable : List (String × Status) :=
  [("opened", .operating), ("virtualqueue", .operating), ("maintenance", .down),
    ("closedice", .closed), ("closedweather", .closed), ("closed", .closed),
    ("refurbishment", .refurbishment)]

namespace WaitEntry

def ofDocument? (d : Document) : Option WaitEntry := do
  let r ← Record.read .refused ["code", "name", "waitingtime", "status", "datetime"] d
  return {
    code := ← r.required "code" text?
    name := ← r.required "name" text?
    waitTime := ← r.optional "waitingtime" uint32?
    status := ← r.required "status" text?
    seenAt := ← r.optional "datetime" text? }

/-- Only what operates has a wait. -/
def toLive (w : WaitEntry) : LiveEntity :=
  let status := Status.ofTable statusTable w.status
  { externalId := w.code
    source := Provider.wartezeiten.id
    entityType := .attraction
    name := w.name
    status := status
    waitTime := if status = .operating then w.waitTime else none
    lastUpdated := w.seenAt.bind Instant.ofRfc3339? }

def toEntity (park : String) (w : WaitEntry) : Entity :=
  { externalId := w.code
    source := Provider.wartezeiten.id
    name := w.name
    entityType := .attraction
    parkExternalId := some park }

end WaitEntry

def crowdLevelOfDocument? (d : Document) : Option CrowdLevel := do
  let r ← Record.read .refused ["crowd_level", "timestamp"] d
  return ⟨← r.required "crowd_level" float?,
    (← r.optional "timestamp" text?).bind Instant.ofRfc3339?⟩

structure OpeningEntry where
  openedToday : Bool
  openFrom : Option String
  closedFrom : Option String
  deriving DecidableEq, Repr

namespace OpeningEntry

def ofDocument? (d : Document) : Option OpeningEntry := do
  let r ← Record.read .refused ["opened_today", "open_from", "closed_from"] d
  return {
    openedToday := ← r.required "opened_today" bool?
    openFrom := ← r.optional "open_from" text?
    closedFrom := ← r.optional "closed_from" text? }

/-- The opening hours of a park that opens today. -/
def toHours? (e : OpeningEntry) : Option OpeningHours :=
  if e.openedToday then do
    return ⟨"OPERATING", ← Instant.ofRfc3339? (← e.openFrom),
      ← Instant.ofRfc3339? (← e.closedFrom)⟩
  else none

end OpeningEntry

def hoursOf (entries : List OpeningEntry) : Option (List OpeningHours) :=
  let hours := entries.filterMap OpeningEntry.toHours?
  if hours.isEmpty then none else some hours

/-- Names and messages are asked for in this language. -/
def language : String := "en"

def defaultPerMinute : UInt32 := 60

/-- The governor of an adapter. The seat tells its own window of the quota. -/
def governor? (s : SourceSettings) (seat : Nat) : Option Quota.Governor :=
  s.blockSecs?.map fun secs ↦ .ofQuota Provider.wartezeiten.id
    (s.requestsPerMinute.getD defaultPerMinute).toNat (secs.toNat * 1000) seat

section

variable {m : Type → Type} [Monad m] [Clock m] [Network m] [MonadStateOf Quota.Memory m] {α : Type}
variable (g : Quota.Governor) (s : SourceSettings)

/-- Every attempt needs a slot of the quota. -/
def ask (decode : Document → Option α) (path : String) (park : Option String) :
    m (Except Failure α) :=
  let client : Http.Client := ⟨Provider.wartezeiten.id,
    Http.trimSlashes (s.baseUrl.getD Provider.wartezeiten.defaultUrl)⟩
  let parkHeader := match park with
    | some id => [("park", id)]
    | none => []
  s.backoff.run <| g.call <| client.get decode path (parkHeader ++ [("language", language)])

def askParks : m (Except Failure (List ListedPark)) :=
  ask g s (list? ListedPark.ofDocument?) "/v1/parks" none

def askWaits (park : String) : m (Except Failure (List WaitEntry)) :=
  ask g s (list? WaitEntry.ofDocument?) "/v1/waitingtimes" (some park)

/-- The waits, with the crowd level and the opening hours as far as they can be had. -/
def askLive (park : String) : m (Except Failure LiveReport) := do
  match ← askWaits g s park with
  | .error f => return .error f
  | .ok waits =>
    let crowd ← ask g s crowdLevelOfDocument? "/v1/crowdlevel" (some park)
    let times ← ask g s (list? OpeningEntry.ofDocument?) "/v1/openingtimes" (some park)
    return .ok {
      source := Provider.wartezeiten.id
      parkExternalId := park
      entities := waits.map WaitEntry.toLive
      crowdLevel := crowd.toOption
      openingHours := times.toOption.bind hoursOf
      fetchedAt := ← Network.today }

/-- A blocked source is unhealthy without being asked. -/
def askHealth : m (Except Failure Bool) := do
  match ← g.checkOpen with
  | .error f => return .error f
  | .ok () => return (← askParks g s).map (!·.isEmpty)

def adapter : Adapter m where
  id := Provider.wartezeiten.id
  completeness := Provider.wartezeiten.completeness
  capabilities := Provider.wartezeiten.capabilities
  parks := return (← askParks g s).map (·.map ListedPark.toPark)
  entities park := return (← askWaits g s park).map (·.map (WaitEntry.toEntity park))
  live := askLive g s
  healthy := askHealth g s

end

end ParkFusion.Wartezeiten
