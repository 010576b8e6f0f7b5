import ParkFusion.Mapping

namespace ParkFusion.Mapping

/-- Why the store did not do what was asked. -/
inductive StoreError
  /-- Someone else inserted a row under the key first. -/
  | duplicate (key : Key)
  | backend (text : String)
  deriving DecidableEq, Repr

def StoreError.message : StoreError → String
  | duplicate key => "duplicate mapping for " ++ key.source ++ "/" ++ key.externalId
  | backend text => "mapping store failure: " ++ text

/-- Keys at which the storage fails, and whether it fails to list the entities of a park. -/
structure Faults where
  duplicates : List Key := []
  upserts : List Key := []
  finds : List Key := []
  listing : Bool := false
  deriving DecidableEq, Repr

/-- Mappings, at most one under each key. -/
structure Store where
  rows : List Mapping := []
  faults : Faults := {}
  deriving DecidableEq, Repr

namespace Store

def diskFull : StoreError :=
  .backend "disk full"

/-- The row under a key. -/
def row? (s : Store) (key : Key) : Option Mapping :=
  s.rows.find? (·.key = key)

/-- Puts a row in the place of the one under its key, or at the end. -/
def put (m : Mapping) : List Mapping → List Mapping
  | [] => [m]
  | row :: rows => if row.key = m.key then m :: rows else row :: put m rows

/-- The row that stands after an upsert: a verified one gives way to verified ones only. -/
def winner (s : Store) (m : Mapping) : Mapping :=
  match s.row? m.key with
  | some row => if row.verified && !m.verified then row else m
  | none => m

def insert (s : Store) (m : Mapping) : Store :=
  { s with rows := put (s.winner m) s.rows }

def find (s : Store) (key : Key) : Except StoreError (Option Mapping) :=
  if s.faults.finds.contains key then .error diskFull else .ok (s.row? key)

/-- Inserts or replaces the row under the key of a mapping, and gives the row that stands there. -/
def upsert (s : Store) (m : Mapping) : Except StoreError (Mapping × Store) :=
  if s.faults.duplicates.contains m.key then .error (.duplicate m.key)
  else if s.faults.upserts.contains m.key then .error diskFull
  else .ok (s.winner m, s.insert m)

def sorted (rows : List Mapping) : List Mapping :=
  rows.mergeSort fun a b ↦ a.key.isLe b.key

/-- The rows of the entities of a park, by key. -/
def entitiesOf (s : Store) (park : Uuid) : Except StoreError (List Mapping) :=
  if s.faults.listing then .error diskFull
  else .ok (sorted (s.rows.filter (·.subject.park = some park)))

/-- All rows, by key. -/
def toList (s : Store) : List Mapping :=
  sorted s.rows

def size (s : Store) : Nat :=
  s.rows.length

/-- The internal id that the first known one of some keys has. -/
def existingId (s : Store) : List Key → Except StoreError (Option Uuid)
  | [] => .ok none
  | key :: keys => do
    match ← s.find key with
    | some row => return some row.id
    | none => s.existingId keys

/-- Upserts mappings one after the other, up to the first failure, and counts them. A row that
someone else inserted first is as good as an own one. -/
def record (s : Store) : List Mapping → Except StoreError Nat × Store
  | [] => (.ok 0, s)
  | m :: ms =>
    match s.upsert m with
    | .ok (_, s) => let (count, s) := s.record ms; (count.map (· + 1), s)
    | .error (.duplicate _) => let (count, s) := s.record ms; (count.map (· + 1), s)
    | .error e => (.error e, s)

end Store

end ParkFusion.Mapping
