import ParkFusion.Adapter
import ParkFusion.Decimal.Nearest
import ParkFusion.Document.Record
import ParkFusion.Http.Client
import ParkFusion.Instant.Rfc3339
import ParkFusion.Live.Status
import ParkFusion.Settings

namespace ParkFusion.QueueTimes

open Document

/-- Parks and rides have numbers for ids. -/
def idText (id : UInt64) : String :=
  toString id.toNat

/-- A coordinate is a number or the text of one. Other texts stand for none. -/
def coordinate? : Document → Option (Option Float)
  | null => some none
  | text s => some (Decimal.parse? (Unicode.trim s))
  | d => d.float?.map some

structure ListedPark where
  id : UInt64
  name : String
  country : Option String
  continent : Option String
  latitude : Option Float
  longitude : Option Float
  timezone : Option String

namespace ListedPark

def ofDocument? (d : Document) : Option ListedPark := do
  let r ← Record.read .refused
    ["id", "name", "country", "continent", "latitude", "longitude", "timezone"] d
  return {
    id := ← r.required "id" uint64?
    name := ← r.required "name" text?
    country := ← r.optional "country" text?
    continent := ← r.optional "continent" text?
    latitude := ← r.orElse "latitude" none coordinate?
    longitude := ← r.orElse "longitude" none coordinate?
    timezone := ← r.optional "timezone" text? }

def toPark (p : ListedPark) : Park :=
  { externalId := idText p.id
    source := Provider.queueTimes.id
    name := p.name
    country := p.country
    continent := p.continent
    timezone := p.timezone
    latitude := p.latitude
    longitude := p.longitude }

end ListedPark

/-- The parks of one company. -/
def companyOfDocument? (d : Document) : Option (List ListedPark) := do
  let r ← Record.read .refused ["parks"] d
  r.orElse "parks" [] (list? ListedPark.ofDocument?)

structure Ride where
  id : UInt64
  name : String
  isOpen : Bool
  waitTime : Option UInt32
  lastUpdated : Option String
  deriving DecidableEq, Repr

def Ride.ofDocument? (d : Document) : Option Ride := do
  let r ← Record.read .refused ["id", "name", "is_open", "wait_time", "last_updated"] d
  return {
    id := ← r.required "id" uint64?
    name := ← r.required "name" text?
    isOpen := ← r.required "is_open" bool?
    waitTime := ← r.optional "wait_time" uint32?
    lastUpdated := ← r.optional "last_updated" text? }

structure ThemedArea where
  id : UInt64
  name : String
  rides : List Ride
  deriving DecidableEq, Repr

def ThemedArea.ofDocument? (d : Document) : Option ThemedArea := do
  let r ← Record.read .refused ["id", "name", "rides"] d
  return {
    id := ← r.required "id" uint64?
    name := ← r.required "name" text?
    rides := ← r.orElse "rides" [] (list? Ride.ofDocument?) }

/-- The rides of a park: those of its lands, and those outside any land. -/
structure Board where
  lands : List ThemedArea
  rides : List Ride
  deriving DecidableEq, Repr

namespace Board

def ofDocument? (d : Document) : Option Board := do
  let r ← Record.read .refused ["lands", "rides"] d
  return {
    lands := ← r.orElse "lands" [] (list? ThemedArea.ofDocument?)
    rides := ← r.orElse "rides" [] (list? Ride.ofDocument?) }

/-- Every ride with the id of its land. -/
def placedRides (b : Board) : List (Option UInt64 × Ride) :=
  b.lands.flatMap (fun land ↦ land.rides.map fun ride ↦ (some land.id, ride)) ++
    b.rides.map fun ride ↦ (none, ride)

end Board

def statusTable : List (String × Status) :=
  [("open", .operating), ("closed", .closed)]

/-- Only an open ride has a wait. -/
def toLive (land : Option UInt64) (ride : Ride) : LiveEntity :=
  { externalId := idText ride.id
    source := Provider.queueTimes.id
    entityType := .attraction
    name := ride.name
    status := .ofTable statusTable (if ride.isOpen then "open" else "closed")
    waitTime := if ride.isOpen then ride.waitTime else none
    landExternalId := land.map idText
    lastUpdated := ride.lastUpdated.bind Instant.ofRfc3339? }

def toEntity (park : String) (land : Option UInt64) (ride : Ride) : Entity :=
  { externalId := idText ride.id
    source := Provider.queueTimes.id
    name := ride.name
    entityType := .attraction
    parkExternalId := some park
    landExternalId := land.map idText }

def toLand (area : ThemedArea) : Land :=
  ⟨idText area.id, area.name, area.rides.map fun ride ↦ idText ride.id⟩

def Board.toReport (b : Board) (park : String) (fetchedAt : Instant) : LiveReport :=
  { source := Provider.queueTimes.id
    parkExternalId := park
    entities := b.placedRides.map fun (land, ride) ↦ toLive land ride
    lands := if b.lands.isEmpty then none else some (b.lands.map toLand)
    fetchedAt := fetchedAt }

section

variable {m : Type → Type} [Monad m] [Clock m] [Network m] {α : Type}

def ask (s : SourceSettings) (decode : Document → Option α) (path : String) :
    m (Except Failure α) :=
  let client : Http.Client := ⟨Provider.queueTimes.id,
    Http.trimSlashes (s.baseUrl.getD Provider.queueTimes.defaultUrl)⟩
  s.backoff.run (client.get decode path [])

def askCompanies (s : SourceSettings) : m (Except Failure (List (List ListedPark))) :=
  ask s (list? companyOfDocument?) "/parks.json"

def askBoard (s : SourceSettings) (park : String) : m (Except Failure Board) :=
  ask s Board.ofDocument? ("/parks/" ++ park ++ "/queue_times.json")

def adapter (s : SourceSettings) : Adapter m where
  id := Provider.queueTimes.id
  completeness := Provider.queueTimes.completeness
  capabilities := Provider.queueTimes.capabilities
  parks := return (← askCompanies s).map fun companies ↦ companies.flatten.map ListedPark.toPark
  entities park := return (← askBoard s park).map fun board ↦
    board.placedRides.map fun (land, ride) ↦ toEntity park land ride
  live park := do
    let board ← askBoard s park
    let now ← Network.today
    return board.map (·.toReport park now)
  healthy := return (← askCompanies s).map (!·.isEmpty)

end

end ParkFusion.QueueTimes
