import ParkFusion.Park
import ParkFusion.Document.Record

namespace ParkFusion

open Document

namespace Park

def ofDocument? (d : Document) : Option Park := do
  let r ← Record.read .refused ["externalId", "source", "name", "country", "continent", "timezone",
    "latitude", "longitude", "destinationId"] d
  return {
    externalId := ← r.required "externalId" text?
    source := ← r.required "source" text?
    name := ← r.required "name" text?
    country := ← r.optional "country" text?
    continent := ← r.optional "continent" text?
    timezone := ← r.optional "timezone" text?
    latitude := ← r.optional "latitude" float?
    longitude := ← r.optional "longitude" float?
    destinationId := ← r.optional "destinationId" text? }

def toDocument (number : Float → Document) (p : Park) : Document :=
  table [("externalId", text p.externalId), ("source", text p.source), ("name", text p.name),
    ("country", ofOption text p.country), ("continent", ofOption text p.continent),
    ("timezone", ofOption text p.timezone), ("latitude", ofOption number p.latitude),
    ("longitude", ofOption number p.longitude), ("destinationId", ofOption text p.destinationId)]

end Park

namespace EntityType

/-- The word in records; messages have it in small letters. -/
def toWord : EntityType → String
  | attraction => "ATTRACTION"
  | .show => "SHOW"
  | restaurant => "RESTAURANT"

def toLowerWord : EntityType → String
  | attraction => "attraction"
  | .show => "show"
  | restaurant => "restaurant"

def words : List (String × EntityType) :=
  [attraction, .show, restaurant].map fun t ↦ (t.toWord, t)

def ofDocument? : Document → Option EntityType := word? words

end EntityType

namespace Entity

def ofDocument? (d : Document) : Option Entity := do
  let r ← Record.read .refused ["externalId", "source", "name", "entityType", "parkExternalId",
    "landExternalId", "latitude", "longitude"] d
  return {
    externalId := ← r.required "externalId" text?
    source := ← r.required "source" text?
    name := ← r.required "name" text?
    entityType := ← r.required "entityType" EntityType.ofDocument?
    parkExternalId := ← r.optional "parkExternalId" text?
    landExternalId := ← r.optional "landExternalId" text?
    latitude := ← r.optional "latitude" float?
    longitude := ← r.optional "longitude" float? }

def toDocument (number : Float → Document) (e : Entity) : Document :=
  table [("externalId", text e.externalId), ("source", text e.source), ("name", text e.name),
    ("entityType", text e.entityType.toWord),
    ("parkExternalId", ofOption text e.parkExternalId),
    ("landExternalId", ofOption text e.landExternalId),
    ("latitude", ofOption number e.latitude), ("longitude", ofOption number e.longitude)]

end Entity

/-- A reference to a record: its source and its external id. -/
def Key.toDocument (k : Key) : Document :=
  ofTexts [k.source, k.externalId]

end ParkFusion
