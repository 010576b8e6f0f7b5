import ParkFusion.Matching
import ParkFusion.Park
import ParkFusion.Uuid

namespace ParkFusion

/-- The kinds of internal records. -/
inductive MappedType
  | park | attraction | show | restaurant
  deriving DecidableEq, Repr

def MappedType.ofEntity : EntityType → MappedType
  | .attraction => attraction
  | .show => .show
  | .restaurant => restaurant

inductive MappingMethod
  | manualOverride | fuzzy
  /-- Only one source knows the record. -/
  | singleSource
  deriving DecidableEq, Repr

def MappingMethod.ofMatch : Matching.Method → MappingMethod
  | .manualOverride => manualOverride
  | .fuzzy => fuzzy

/-- The record of one source that a mapping is about: a park, or an entity of a park. -/
structure Subject where
  key : Key
  type : MappedType
  park : Option Uuid
  deriving DecidableEq, Repr

namespace Subject

def ofPark (p : Park) : Subject :=
  ⟨p.key, .park, none⟩

def ofEntity (park : Uuid) (e : Entity) : Subject :=
  ⟨e.key, .ofEntity e.entityType, some park⟩

end Subject

/-- Ties the record of one source to an internal id. A mapping that an operator has declared is
verified. -/
structure Mapping where
  id : Uuid
  subject : Subject
  confidence : Float
  method : MappingMethod
  verified : Bool
  deriving DecidableEq, Repr

namespace Mapping

def key (m : Mapping) : Key :=
  m.subject.key

/-- The mapping of a record that only one source knows. -/
def single (id : Uuid) (subject : Subject) : Mapping :=
  ⟨id, subject, 1, .singleSource, false⟩

/-- The mappings of the two records of a pair. -/
def ofMatch {α : Type} (id : Uuid) (subject : α → Subject) (pair : Matching.Match α Float) :
    List Mapping :=
  [pair.left, pair.right].map fun record ↦
    ⟨id, subject record, pair.confidence, .ofMatch pair.method, pair.method = .manualOverride⟩

end Mapping

end ParkFusion
