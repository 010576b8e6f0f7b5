import ParkFusion.Failure
import ParkFusion.Merge.Order
import ParkFusion.Merge.Entities

namespace ParkFusion

/-- Opening hours of a source whose first entry differs from the one that was kept. -/
structure HoursDiscrepancy where
  keptSource : String
  otherSource : String
  kept : OpeningHours
  other : OpeningHours
  deriving DecidableEq, Repr

namespace HoursDiscrepancy

def check? (keptSource : String) (kept : List OpeningHours) (otherSource : String)
    (other : List OpeningHours) : Option HoursDiscrepancy :=
  match kept, other with
  | k :: _, o :: _ =>
    if k.openingTime = o.openingTime && k.closingTime = o.closingTime then none
    else some ⟨keptSource, otherSource, k, o⟩
  | _, _ => none

end HoursDiscrepancy

/-- A merged report and what did not agree. -/
structure Resolution where
  report : LiveReport
  waitDiscrepancies : List WaitDiscrepancy
  hoursDiscrepancies : List HoursDiscrepancy
  deriving DecidableEq, Repr

namespace Merge

/-- How reports are merged. The priority lists source ids, richest first. -/
structure Policy where
  rounding : UInt32 := 5
  discrepancyThreshold : UInt32 := 15
  windowMinutes : UInt32 := 10
  priority : List String := ["themeparks-wiki", "queue-times", "wartezeiten"]
  deriving DecidableEq, Repr

def aggregatedSource : String := "aggregated"

/-- The opening hours that a report has, unless it has none. -/
def hoursOf (entry : String × LiveReport) : Option (String × List OpeningHours) :=
  match entry.2.openingHours with
  | some (first :: rest) => some (entry.1, first :: rest)
  | _ => none

/-- The first hours that are given, and the later ones that differ from them. -/
def pickHours (ordered : List (String × LiveReport)) :
    Option (List OpeningHours) × List HoursDiscrepancy :=
  match ordered.filterMap hoursOf with
  | [] => (none, [])
  | (keptSource, kept) :: others =>
    (some kept, others.filterMap fun (source, hours) ↦
      HoursDiscrepancy.check? keptSource kept source hours)

def windowSeconds (policy : Policy) : Int :=
  policy.windowMinutes.toNat * 60

/-- Merges reports that stand in their effective order. -/
def resolveOrdered (policy : Policy) (richest : LiveReport) (ordered : List (String × LiveReport)) :
    Resolution :=
  let (hours, hoursDiscrepancies) := pickHours ordered
  let merged := mergeEntities ordered
  { report := {
      source := aggregatedSource
      parkExternalId := richest.parkExternalId
      entities := merged.map (·.finish policy.rounding)
      lands := ordered.findSome? (·.2.lands)
      crowdLevel := ordered.findSome? (·.2.crowdLevel)
      openingHours := hours
      fetchedAt := (Instant.latest? (ordered.map (·.2.fetchedAt))).getD richest.fetchedAt }
    waitDiscrepancies := merged.filterMap fun m ↦
      WaitDiscrepancy.check? m.live.name m.waits (windowSeconds policy) policy.discrepancyThreshold
    hoursDiscrepancies := hoursDiscrepancies }

/-- Merges one report per source. The sources of the ranking come first, then those of the priority,
then the others by id. -/
def resolve (policy : Policy) (ranking : List String) (reports : List (String × LiveReport)) :
    Except NoData Resolution :=
  match order (ranking ++ policy.priority) reports with
  | [] => .error ⟨"unknown"⟩
  | (id, richest) :: rest => .ok (resolveOrdered policy richest ((id, richest) :: rest))

end Merge

end ParkFusion
