import ParkFusion.Entries
import ParkFusion.Failure
import ParkFusion.Matching.Rules

namespace ParkFusion

open Matching

/-- The entities of one park: those of the anchor, and how those of every other source match them,
by source. -/
structure EntityDiscovery where
  anchor : Option String := none
  anchorEntities : List Entity := []
  outcomes : List (String × Outcome Entity Float) := []
  failed : List String := []
  deriving DecidableEq, Repr

namespace EntityDiscovery

/-- The lists that sources gave. -/
def lists (replies : List (String × Except Failure (List Entity))) :
    List (String × List Entity) :=
  replies.filterMap fun (id, reply) ↦ reply.toOption.map (id, ·)

/-- The anchor is the first source that gave a list. -/
def ofReplies (rule : EntityRule) (replies : List (String × Except Failure (List Entity))) :
    EntityDiscovery :=
  let failed := (replies.filter fun reply ↦ reply.2.toOption.isNone).map (·.1)
  match lists replies with
  | [] => { failed }
  | (anchor, anchorEntities) :: others =>
    { anchor := some anchor
      anchorEntities := anchorEntities
      outcomes := Entries.sort <| others.map fun (id, entities) ↦
        (id, rule.pairOff anchorEntities entities)
      failed := failed }

end EntityDiscovery

end ParkFusion
