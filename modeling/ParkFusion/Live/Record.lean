import ParkFusion.Live
import ParkFusion.Park.Record
import ParkFusion.Instant.Rfc3339

namespace ParkFusion

open Document

namespace Instant

def ofDocument? (d : Document) : Option Instant :=
  d.text?.bind ofRelaxed?

def toDocument (t : Instant) : Document :=
  text t.toText

end Instant

namespace Status

def toWord : Status → String
  | operating => "OPERATING"
  | down => "DOWN"
  | closed => "CLOSED"
  | refurbishment => "REFURBISHMENT"

def words : List (String × Status) :=
  [operating, down, closed, refurbishment].map fun s ↦ (s.toWord, s)

def ofDocument? : Document → Option Status := word? words

end Status

namespace QueueType

def toWord : QueueType → String
  | standby => "STANDBY"
  | singleRider => "SINGLE_RIDER"
  | returnTime => "RETURN_TIME"
  | paidReturnTime => "PAID_RETURN_TIME"
  | boardingGroup => "BOARDING_GROUP"

def words : List (String × QueueType) :=
  all.map fun t ↦ (t.toWord, t)

def ofDocument? : Document → Option QueueType := word? words

end QueueType

def waitDocument (wait : UInt32) : Document :=
  ofNat wait.toNat

namespace Queue

def ofDocument? (d : Document) : Option Queue := do
  let r ← Record.read .refused
    ["queueType", "waitTime", "returnStart", "returnEnd", "state", "price"] d
  return {
    queueType := ← r.required "queueType" QueueType.ofDocument?
    waitTime := ← r.optional "waitTime" uint32?
    returnStart := ← r.optional "returnStart" Instant.ofDocument?
    returnEnd := ← r.optional "returnEnd" Instant.ofDocument?
    state := ← r.optional "state" text?
    price := ← r.optional "price" text? }

def toDocument (q : Queue) : Document :=
  table [("queueType", text q.queueType.toWord), ("waitTime", ofOption waitDocument q.waitTime),
    ("returnStart", ofOption Instant.toDocument q.returnStart),
    ("returnEnd", ofOption Instant.toDocument q.returnEnd),
    ("state", ofOption text q.state), ("price", ofOption text q.price)]

end Queue

namespace Showtime

def ofDocument? (d : Document) : Option Showtime := do
  let r ← Record.read .refused ["showtimeType", "startTime", "endTime"] d
  return {
    showtimeType := ← r.optional "showtimeType" text?
    startTime := ← r.optional "startTime" Instant.ofDocument?
    endTime := ← r.optional "endTime" Instant.ofDocument? }

def toDocument (s : Showtime) : Document :=
  table [("showtimeType", ofOption text s.showtimeType),
    ("startTime", ofOption Instant.toDocument s.startTime),
    ("endTime", ofOption Instant.toDocument s.endTime)]

end Showtime

namespace Dining

def ofDocument? (d : Document) : Option Dining := do
  let r ← Record.read .refused ["waitTime", "acceptsReservations"] d
  return {
    waitTime := ← r.optional "waitTime" uint32?
    acceptsReservations := ← r.optional "acceptsReservations" bool? }

def toDocument (d : Dining) : Document :=
  table [("waitTime", ofOption waitDocument d.waitTime),
    ("acceptsReservations", ofOption Document.bool d.acceptsReservations)]

end Dining

namespace LiveEntity

def ofDocument? (d : Document) : Option LiveEntity := do
  let r ← Record.read .refused ["externalId", "source", "entityType", "name", "status", "waitTime",
    "landExternalId", "queues", "showtimes", "diningInfo", "lastUpdated", "provenance"] d
  return {
    externalId := ← r.required "externalId" text?
    source := ← r.required "source" text?
    entityType := ← r.required "entityType" EntityType.ofDocument?
    name := ← r.required "name" text?
    status := ← r.required "status" Status.ofDocument?
    waitTime := ← r.optional "waitTime" uint32?
    landExternalId := ← r.optional "landExternalId" text?
    queues := ← r.orElse "queues" [] (list? Queue.ofDocument?)
    showtimes := ← r.optional "showtimes" (list? Showtime.ofDocument?)
    dining := ← r.optional "diningInfo" Dining.ofDocument?
    lastUpdated := ← r.optional "lastUpdated" Instant.ofDocument?
    provenance := ← r.orElse "provenance" [] (list? text?) }

/-- Queues and provenance are left out where there are none. -/
def toDocument (e : LiveEntity) : Document :=
  table <|
    [("externalId", text e.externalId), ("source", text e.source),
      ("entityType", text e.entityType.toWord), ("name", text e.name),
      ("status", text e.status.toWord), ("waitTime", ofOption waitDocument e.waitTime),
      ("landExternalId", ofOption text e.landExternalId)] ++
    (if e.queues.isEmpty then [] else [("queues", list (e.queues.map Queue.toDocument))]) ++
    [("showtimes", ofOption (fun times ↦ list (times.map Showtime.toDocument)) e.showtimes),
      ("diningInfo", ofOption Dining.toDocument e.dining),
      ("lastUpdated", ofOption Instant.toDocument e.lastUpdated)] ++
    (if e.provenance.isEmpty then [] else [("provenance", ofTexts e.provenance)])

end LiveEntity

namespace Land

def ofDocument? (d : Document) : Option Land := do
  let r ← Record.read .refused ["externalId", "name", "entityExternalIds"] d
  return {
    externalId := ← r.required "externalId" text?
    name := ← r.required "name" text?
    entityExternalIds := ← r.required "entityExternalIds" (list? text?) }

def toDocument (l : Land) : Document :=
  table [("externalId", text l.externalId), ("name", text l.name),
    ("entityExternalIds", ofTexts l.entityExternalIds)]

end Land

namespace CrowdLevel

def ofDocument? (d : Document) : Option CrowdLevel := do
  let r ← Record.read .refused ["level", "timestamp"] d
  return {
    level := ← r.required "level" float?
    timestamp := ← r.optional "timestamp" Instant.ofDocument? }

def toDocument (number : Float → Document) (c : CrowdLevel) : Document :=
  table [("level", number c.level), ("timestamp", ofOption Instant.toDocument c.timestamp)]

end CrowdLevel

namespace OpeningHours

def ofDocument? (d : Document) : Option OpeningHours := do
  let r ← Record.read .refused ["hoursType", "openingTime", "closingTime"] d
  return {
    hoursType := ← r.required "hoursType" text?
    openingTime := ← r.required "openingTime" Instant.ofDocument?
    closingTime := ← r.required "closingTime" Instant.ofDocument? }

def toDocument (h : OpeningHours) : Document :=
  table [("hoursType", text h.hoursType), ("openingTime", h.openingTime.toDocument),
    ("closingTime", h.closingTime.toDocument)]

end OpeningHours

namespace LiveReport

def ofDocument? (d : Document) : Option LiveReport := do
  let r ← Record.read .refused ["source", "parkExternalId", "entities", "lands", "crowdLevel",
    "operatingHours", "fetchedAt"] d
  return {
    source := ← r.required "source" text?
    parkExternalId := ← r.required "parkExternalId" text?
    entities := ← r.required "entities" (list? LiveEntity.ofDocument?)
    lands := ← r.optional "lands" (list? Land.ofDocument?)
    crowdLevel := ← r.optional "crowdLevel" CrowdLevel.ofDocument?
    openingHours := ← r.optional "operatingHours" (list? OpeningHours.ofDocument?)
    fetchedAt := ← r.required "fetchedAt" Instant.ofDocument? }

def entries (number : Float → Document) (r : LiveReport) : List (String × Document) :=
  [("source", text r.source), ("parkExternalId", text r.parkExternalId),
    ("entities", list (r.entities.map LiveEntity.toDocument)),
    ("lands", ofOption (fun lands ↦ list (lands.map Land.toDocument)) r.lands),
    ("crowdLevel", ofOption (CrowdLevel.toDocument number) r.crowdLevel),
    ("operatingHours",
      ofOption (fun hours ↦ list (hours.map OpeningHours.toDocument)) r.openingHours)]

def toDocument (number : Float → Document) (r : LiveReport) : Document :=
  table (r.entries number ++ [("fetchedAt", r.fetchedAt.toDocument)])

end LiveReport

end ParkFusion
