import ParkFusion.Job
import ParkFusion.Live.Record

namespace ParkFusion

open Document

namespace JobKind

def resyncWord : String := "resync_mappings"

/-- A kind is a table with the word for it under `type`, or a list that begins with that word. -/
def ofDocument? (d : Document) : Option JobKind := do
  let rest ← match d with
    | table entries =>
      if entries.lookup "type" |>.bind text? |>.any (· = resyncWord) then some d else none
    | list (text word :: items) => if word = resyncWord then some (list items) else none
    | _ => none
  let r ← Record.read .refused ["park_name", "external_ids"] rest
  return .resyncMappings (← r.required "park_name" text?) (← r.required "external_ids" (map? text?))

def toDocument : JobKind → Document
  | resyncMappings parkName externalIds =>
    table [("type", text resyncWord), ("park_name", text parkName),
      ("external_ids", table (externalIds.map fun (source, id) ↦ (source, text id)))]

end JobKind

namespace Job

def ofDocument? (d : Document) : Option Job := do
  let r ← Record.read .refused ["kind", "priority", "attempts", "enqueued_at"] d
  return {
    kind := ← r.required "kind" JobKind.ofDocument?
    priority := ← r.required "priority" uint8?
    attempts := ← r.required "attempts" uint32?
    enqueuedAt := ← r.required "enqueued_at" Instant.ofDocument? }

/-- All but the time at which the job was enqueued. -/
def entries (j : Job) : List (String × Document) :=
  [("kind", j.kind.toDocument), ("priority", ofNat j.priority.toNat),
    ("attempts", ofNat j.attempts.toNat)]

def toDocument (j : Job) : Document :=
  table (j.entries ++ [("enqueued_at", j.enqueuedAt.toDocument)])

end Job

end ParkFusion
