import ParkFusion.CommandLine.Arguments
import ParkFusion.Decimal.Fixed
import ParkFusion.Discovery.Persistence
import ParkFusion.Hub.Providers
import ParkFusion.Json.Writer
import ParkFusion.Live.Record
import ParkFusion.Settings.Load

namespace ParkFusion.CommandLine

/-- What a run leaves behind: its exit code, and the texts on its two channels. -/
structure Report where
  exit : Nat := 0
  output : String := ""
  errors : String := ""
  deriving DecidableEq, Repr

def lines (ls : List String) : String :=
  String.join (ls.map (· ++ "\n"))

def succeed (ls : List String) : Report :=
  { output := lines ls }

def fail (exit : Nat) (ls : List String) : Report :=
  { exit, errors := lines ls }

/-- A text in a column of so many characters. -/
def column (width : Nat) (s : String) : String :=
  s ++ String.ofList (List.replicate (width - s.length) ' ')

def quotedList (items : List String) : String :=
  "[" ++ ", ".intercalate (items.map fun s ↦ String.ofList (Json.quote s)) ++ "]"

def share (x : Float) : String :=
  Decimal.fixed 2 x

def groupLine (g : ParkGroup) : String :=
  column 40 g.anchor.name ++ " " ++ share g.confidence ++ " " ++
    Json.compact (.table (g.externalIds.map fun (source, id) ↦ (source, .text id)))

def discoveryLines (d : ParkDiscovery) (mappings jobs : Nat) : List String :=
  d.groups.map groupLine ++
    ["fully matched: " ++ toString d.fullyMatched.length ++ ", cross matched: " ++
        toString d.crossMatched.length ++ ", single source: " ++
        toString d.singleSource.length ++ ", failed: " ++ quotedList d.failed,
      "mappings: " ++ toString mappings ++ ", resync jobs queued: " ++ toString jobs]

def outcomeLines (source : String) (o : Matching.Outcome Entity Float) : List String :=
  (source ++ ": matched " ++ toString o.matched.length ++ ", anchor only " ++
      toString o.leftOnly.length ++ ", " ++ source ++ " only " ++ toString o.rightOnly.length) ::
    o.matched.map fun pair ↦
      "  " ++ column 40 pair.left.name ++ " <-> " ++ column 40 pair.right.name ++ " " ++
        share pair.confidence

def entityLines (d : EntityDiscovery) : List String :=
  ("anchor: " ++ d.anchor.getD "none" ++ " (" ++ toString d.anchorEntities.length ++
      " entities)") ::
    d.outcomes.flatMap (fun (source, o) ↦ outcomeLines source o) ++
    if d.failed.isEmpty then [] else ["failed: " ++ quotedList d.failed]

def healthLines (health : List (String × Bool)) : List String :=
  (Entries.sort health).map fun (source, healthy) ↦
    column 20 source ++ " " ++ if healthy then "ok" else "unhealthy"

def about : String := "Multi-source theme park data ingestion"

def usage : List String :=
  [about, "", "Usage: parkfan-ingest [OPTIONS] <COMMAND>", "",
    "Commands: discover, entities, live, health", "Options: --config, --help, --version"]

def versionLine : String := "parkfan-ingest 0.1.0"

def queuedJobs : JobSink → Nat
  | .queue q => q.jobs.length
  | _ => 0

section

variable {m : Type → Type} [Monad m] [Clock m] [Network m] [MonadStateOf Quota.Memory m]

/-- Runs a command over a hub. -/
def Command.run (hub : Hub m) (supply : IdSupply) : Command → m Report
  | .discover => do
    let (discovery, sink) ← hub.discoverParks (.queue {})
    match (discovery.persist {} supply).1 with
    | .error e => return fail 1 ["Error: Persistence error: " ++ e.message]
    | .ok count => return succeed (discoveryLines discovery count (queuedJobs sink))
  | .entities ids =>
    return succeed (entityLines (← hub.discoverEntities (Entries.keepLast ids)))
  | .live park ids => do
    match ← hub.live park (Entries.keepLast ids) with
    | .error e => return fail 1 ["Error: " ++ e.message]
    | .ok report => return succeed [Json.pretty (report.toDocument .real)]
  | .health => return succeed (healthLines (← hub.health))

/-- Answers a request, for which the settings are loaded from the file that it names. Their times may
be too long for a hub. -/
def Request.answer (load : Option String → m (Except LoadFault Settings)) (supply : IdSupply) :
    Request → m Report
  | .version => return succeed [versionLine]
  | .help => return succeed usage
  | .nothing => return fail 2 usage
  | .misuse fault => return fail 2 ["error: " ++ fault.message]
  | .run invocation => do
    match ← load invocation.config with
    | .error fault =>
      return fail 1 ["Error: Failed to load configuration", "", "Caused by:",
        "    " ++ fault.message]
    | .ok settings =>
      match (Hub.ofProviders? settings : Option (Hub m)) with
      | none => return fail 101 ["attempt to multiply with overflow"]
      | some hub => invocation.command.run hub supply

end

end ParkFusion.CommandLine
