import ParkFusion.Entries
import ParkFusion.Failure
import ParkFusion.Job
import ParkFusion.Matching.Rules

namespace ParkFusion

open Matching

/-- One park as several sources see it: the anchor, and the pairs that it enters. -/
structure ParkGroup where
  anchor : Park
  pairs : List ParkMatch := []
  deriving DecidableEq, Repr

namespace ParkGroup

def members (g : ParkGroup) : List Park :=
  g.anchor :: g.pairs.map (·.right)

/-- The external id under every source of the group. -/
def externalIds (g : ParkGroup) : List (String × String) :=
  Entries.sort (Entries.keepLast (g.members.map fun p ↦ (p.source, p.externalId)))

/-- The confidence of the weakest pair. -/
def confidence (g : ParkGroup) : Float :=
  g.pairs.foldl (fun least pair ↦ if pair.confidence < least then pair.confidence else least) 1

end ParkGroup

/-- The parks of all sources, sorted by who knows them: the primary source and others, only others,
or one source alone. -/
structure ParkDiscovery where
  primary : Option String := none
  fullyMatched : List ParkGroup := []
  crossMatched : List ParkGroup := []
  singleSource : List Park := []
  failed : List String := []
  deriving DecidableEq, Repr

namespace ParkDiscovery

/-- Adds a pair to the first group with such an anchor. -/
def addTo (isAnchor : Park → Bool) (pair : ParkMatch) : List ParkGroup → List ParkGroup
  | [] => []
  | g :: groups =>
    if isAnchor g.anchor then { g with pairs := g.pairs ++ [pair] } :: groups
    else g :: addTo isAnchor pair groups

/-- Adds a pair to the group of the primary's park in it. -/
def addPrimary (groups : List ParkGroup) (pair : ParkMatch) : List ParkGroup :=
  addTo (·.externalId = pair.left.externalId) pair groups

/-- Adds a pair to the group of its left park, which is made if there is none. -/
def addCross (groups : List ParkGroup) (pair : ParkMatch) : List ParkGroup :=
  if groups.any (·.anchor.key = pair.left.key) then addTo (·.key = pair.left.key) pair groups
  else groups ++ [⟨pair.left, [pair]⟩]

/-- Pairs one list with each of the later ones, and leaves of these what is not in a pair. -/
def crossRow (rule : ParkRule) (left : List Park) :
    List (List Park) → List ParkMatch × List (List Park)
  | [] => ([], [])
  | right :: rest =>
    let outcome := rule.pairOff left right
    let (pairs, rest) := crossRow rule left rest
    (outcome.matched ++ pairs, outcome.rightOnly :: rest)

/-- Pairs so many of the lists, each with the later ones. -/
def crossPairs (rule : ParkRule) : Nat → List (List Park) → List ParkMatch × List (List Park)
  | count + 1, left :: rest =>
    let (pairs, rest) := crossRow rule left rest
    let (others, rest) := crossPairs rule count rest
    (pairs ++ others, left :: rest)
  | _, lists => ([], lists)

/-- Pairs each secondary list with the primary one. -/
def primaryOutcomes (rule : ParkRule) (primary : List Park) (secondaries : List (List Park)) :
    List (Outcome Park Float) :=
  secondaries.map (rule.pairOff primary)

/-- Sorts the lists of parks, the first of which is the primary's. -/
def reconcile (rule : ParkRule) (primary : List Park) (secondaries : List (List Park)) :
    ParkDiscovery :=
  let outcomes := primaryOutcomes rule primary secondaries
  let groups := (outcomes.flatMap (·.matched)).foldl addPrimary (primary.map fun p ↦ ⟨p, []⟩)
  let (pairs, rest) := crossPairs rule outcomes.length (outcomes.map (·.rightOnly))
  let paired := pairs.map (·.left.key)
  { fullyMatched := groups.filter (!·.pairs.isEmpty)
    crossMatched := pairs.foldl addCross []
    singleSource := (groups.filter (·.pairs.isEmpty)).map (·.anchor) ++
      rest.flatten.filter fun p ↦ !paired.contains p.key }

/-- A source that gave no list counts as having none. -/
def ofReplies (rule : ParkRule) (replies : List (String × Except Failure (List Park))) :
    ParkDiscovery :=
  match replies.map fun reply ↦ reply.2.toOption.getD [] with
  | [] => {}
  | primary :: secondaries =>
    { reconcile rule primary secondaries with
      primary := replies.head?.map (·.1)
      failed := (replies.filter fun reply ↦ reply.2.toOption.isNone).map (·.1) }

def groups (d : ParkDiscovery) : List ParkGroup :=
  d.fullyMatched ++ d.crossMatched

def resyncPriority : UInt8 := 5

/-- The follow-up work: one job for every group. -/
def jobs (d : ParkDiscovery) (now : Instant) : List Job :=
  d.groups.map fun g ↦
    { kind := .resyncMappings g.anchor.name g.externalIds
      priority := resyncPriority
      enqueuedAt := now }

end ParkDiscovery

end ParkFusion
