import ParkFusion.Discovery.Entities
import ParkFusion.Discovery.Parks
import ParkFusion.Mapping.Store

namespace ParkFusion

open Mapping (Store StoreError)

/-- Ids that were never given out, one after the other. -/
structure IdSupply where
  id : Nat → Uuid
  used : Nat := 0

namespace IdSupply

def next (s : IdSupply) : Uuid × IdSupply :=
  (s.id s.used, { s with used := s.used + 1 })

/-- The known id, or else a new one. -/
def orNew (s : IdSupply) : Option Uuid → Uuid × IdSupply
  | some id => (id, s)
  | none => s.next

end IdSupply

/-- Maps a list while ids are drawn from a supply. -/
def assign {α β : Type} (f : IdSupply → α → β × IdSupply) :
    IdSupply → List α → List β × IdSupply
  | supply, [] => ([], supply)
  | supply, a :: rest =>
    let (b, supply) := f supply a
    let (bs, supply) := assign f supply rest
    (b :: bs, supply)

namespace ParkDiscovery

/-- What persists together under one id: the keys of some parks, and their mappings once the id is
known. -/
structure Bundle where
  keys : List Key
  mappings : Uuid → List Mapping

def ofGroup (g : ParkGroup) : Bundle :=
  ⟨g.members.map (·.key), fun id ↦ g.pairs.flatMap (Mapping.ofMatch id Subject.ofPark)⟩

def ofSingle (p : Park) : Bundle :=
  ⟨[p.key], fun id ↦ [Mapping.single id (.ofPark p)]⟩

def bundles (d : ParkDiscovery) : List Bundle :=
  d.groups.map ofGroup ++ d.singleSource.map ofSingle

/-- The mappings of some bundles. An id that any member has already is used again. -/
def proposeAll (store : Store) (supply : IdSupply) :
    List Bundle → Except StoreError (List Mapping) × IdSupply
  | [] => (.ok [], supply)
  | bundle :: rest =>
    match store.existingId bundle.keys with
    | .error e => (.error e, supply)
    | .ok known =>
      let (id, supply) := supply.orNew known
      let (others, supply) := proposeAll store supply rest
      (others.map (bundle.mappings id ++ ·), supply)

/-- Stores the mappings of all parks, and counts them. -/
def persist (d : ParkDiscovery) (store : Store) (supply : IdSupply) :
    Except StoreError Nat × Store × IdSupply :=
  match proposeAll store supply d.bundles with
  | (.error e, supply) => (.error e, store, supply)
  | (.ok mappings, supply) =>
    let (count, store) := store.record mappings
    (count, store, supply)

end ParkDiscovery

namespace EntityDiscovery

variable (known : Key → Option Uuid)

/-- The id that a record paired with an anchor entity has already. -/
def partnerId? (d : EntityDiscovery) (e : Entity) : Option Uuid :=
  (d.outcomes.flatMap (·.2.matched)).findSome? fun pair ↦
    if pair.left.externalId = e.externalId then known pair.right.key else none

/-- An anchor entity keeps its id, or takes that of a partner. -/
def anchorId (d : EntityDiscovery) (supply : IdSupply) (e : Entity) :
    (String × Uuid) × IdSupply :=
  let (id, supply) := supply.orNew ((known e.key).or (d.partnerId? known e))
  ((e.externalId, id), supply)

def single (park : Uuid) (supply : IdSupply) (e : Entity) : Mapping × IdSupply :=
  let (id, supply) := supply.orNew (known e.key)
  (Mapping.single id (.ofEntity park e), supply)

/-- The mappings of one source: of its pairs under the ids of the anchor, then of its other
entities. -/
def proposeOutcome (ids : List (String × Uuid)) (park : Uuid) (supply : IdSupply)
    (outcome : Matching.Outcome Entity Float) : List Mapping × IdSupply :=
  let paired := outcome.matched.flatMap fun pair ↦
    match ids.lookup pair.left.externalId with
    | some id => Mapping.ofMatch id (Subject.ofEntity park) pair
    | none => []
  let (singles, supply) := assign (single known park) supply outcome.rightOnly
  (paired ++ singles, supply)

/-- The anchor entities that are in no pair. -/
def proposeUnpaired (d : EntityDiscovery) (ids : List (String × Uuid)) (park : Uuid) :
    List Mapping :=
  let paired := d.outcomes.flatMap fun outcome ↦
    outcome.2.matched.map fun pair ↦ pair.left.externalId
  (d.anchorEntities.filter fun e ↦ !paired.contains e.externalId).filterMap fun e ↦
    (ids.lookup e.externalId).map fun id ↦ Mapping.single id (.ofEntity park e)

def propose (d : EntityDiscovery) (park : Uuid) (supply : IdSupply) : List Mapping × IdSupply :=
  let (ids, supply) := assign (d.anchorId known) supply d.anchorEntities
  let ids := Entries.keepLast ids
  let (proposed, supply) :=
    assign (proposeOutcome known ids park) supply (d.outcomes.map (·.2))
  (proposed.flatten ++ d.proposeUnpaired ids park, supply)

/-- Stores the mappings of the entities of a park, and counts them. Known are the ids that the store
has for entities of this park. -/
def persist (d : EntityDiscovery) (park : Uuid) (store : Store) (supply : IdSupply) :
    Except StoreError Nat × Store × IdSupply :=
  match store.entitiesOf park with
  | .error e => (.error e, store, supply)
  | .ok rows =>
    let known := fun key ↦ (rows.find? (·.key = key)).map (·.id)
    let (mappings, supply) := d.propose known park supply
    let (count, store) := store.record mappings
    (count, store, supply)

end EntityDiscovery

end ParkFusion
