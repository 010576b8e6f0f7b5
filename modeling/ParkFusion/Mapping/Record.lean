import ParkFusion.Mapping
import ParkFusion.Document.Record

namespace ParkFusion

open Document

namespace Uuid

def ofDocument? (d : Document) : Option Uuid :=
  d.text?.bind ofText?

def toDocument (u : Uuid) : Document :=
  text u.toText

end Uuid

namespace MappedType

def toWord : MappedType → String
  | park => "park"
  | attraction => "attraction"
  | .show => "show"
  | restaurant => "restaurant"

def words : List (String × MappedType) :=
  [park, attraction, .show, restaurant].map fun t ↦ (t.toWord, t)

def ofDocument? : Document → Option MappedType := word? words

end MappedType

namespace Matching.Method

def toWord : Method → String
  | manualOverride => "manual_override"
  | fuzzy => "fuzzy"

def words : List (String × Method) :=
  [manualOverride, fuzzy].map fun m ↦ (m.toWord, m)

def ofDocument? : Document → Option Method := word? words

end Matching.Method

namespace MappingMethod

def toWord : MappingMethod → String
  | manualOverride => "manual_override"
  | fuzzy => "fuzzy"
  | singleSource => "single_source"

def words : List (String × MappingMethod) :=
  [manualOverride, fuzzy, singleSource].map fun m ↦ (m.toWord, m)

def ofDocument? : Document → Option MappingMethod := word? words

end MappingMethod

namespace Mapping

def ofDocument? (d : Document) : Option Mapping := do
  let r ← Record.read .refused ["internal_entity_id", "internal_entity_type", "park_internal_id",
    "external_source", "external_entity_id", "confidence", "method", "verified"] d
  return {
    id := ← r.required "internal_entity_id" Uuid.ofDocument?
    subject := {
      type := ← r.required "internal_entity_type" MappedType.ofDocument?
      park := ← r.optional "park_internal_id" Uuid.ofDocument?
      key := {
        source := ← r.required "external_source" text?
        externalId := ← r.required "external_entity_id" text? } }
    confidence := ← r.required "confidence" float?
    method := ← r.required "method" MappingMethod.ofDocument?
    verified := ← r.required "verified" bool? }

def toDocument (number : Float → Document) (m : Mapping) : Document :=
  table [("internal_entity_id", m.id.toDocument),
    ("internal_entity_type", text m.subject.type.toWord),
    ("park_internal_id", ofOption Uuid.toDocument m.subject.park),
    ("external_source", text m.key.source), ("external_entity_id", text m.key.externalId),
    ("confidence", number m.confidence), ("method", text m.method.toWord),
    ("verified", Document.bool m.verified)]

end Mapping

end ParkFusion
