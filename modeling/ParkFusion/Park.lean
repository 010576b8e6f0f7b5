import ParkFusion.Geo

namespace ParkFusion

/-- What identifies a record: the source that reports it and the name the source has for it. -/
structure Key where
  source : String
  externalId : String
  deriving DecidableEq, Repr

namespace Key

/-- By source, then by external id, compared by their UTF-8 bytes. -/
def isLe (a b : Key) : Bool :=
  decide (a.source < b.source) || (a.source == b.source && !decide (b.externalId < a.externalId))

end Key

/-- A park as one source reports it. -/
structure Park where
  externalId : String
  source : String
  name : String
  country : Option String := none
  continent : Option String := none
  timezone : Option String := none
  latitude : Option Float := none
  longitude : Option Float := none
  destinationId : Option String := none
  deriving DecidableEq, Repr

namespace Park

def key (p : Park) : Key := ⟨p.source, p.externalId⟩

def place? (p : Park) : Option Place :=
  Place.ofCoordinates? p.latitude p.longitude

end Park

inductive EntityType
  | attraction | show | restaurant
  deriving DecidableEq, Repr

/-- An attraction, show or restaurant as one source reports it. -/
structure Entity where
  externalId : String
  source : String
  name : String
  entityType : EntityType
  parkExternalId : Option String := none
  landExternalId : Option String := none
  latitude : Option Float := none
  longitude : Option Float := none
  deriving DecidableEq, Repr

namespace Entity

def key (e : Entity) : Key := ⟨e.source, e.externalId⟩

def place? (e : Entity) : Option Place :=
  Place.ofCoordinates? e.latitude e.longitude

end Entity

end ParkFusion
