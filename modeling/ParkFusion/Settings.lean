import ParkFusion.Backoff
import ParkFusion.Decimal.Shortest
import ParkFusion.Matching.Overrides
import ParkFusion.Merge
import ParkFusion.Provider
import ParkFusion.Unicode.Blank

namespace ParkFusion

structure Logging where
  level : String := "info"
  json : Bool := false
  deriving DecidableEq, Repr

/-- A score must be greater than its threshold for a match. The overrides are pairs of names that
are declared identical. -/
structure MatchingSettings where
  parkThreshold : Float := 0.75
  entityThreshold : Float := 0.8
  overrides : List (String × String) := []
  deriving DecidableEq, Repr

def MatchingSettings.overrideTable (s : MatchingSettings) : Matching.Overrides :=
  .ofPairs s.overrides

/-- How one source is asked. Of the attempts the first one counts too. -/
structure SourceSettings where
  enabled : Bool := true
  baseUrl : Option String := none
  timeoutSecs : UInt64 := 30
  maxAttempts : UInt32 := 3
  initialBackoffMs : UInt64 := 500
  requestsPerMinute : Option UInt32 := none
  blockMinutes : UInt64 := 15
  deriving DecidableEq, Repr

namespace SourceSettings

/-- At least one attempt is made. -/
def backoff (s : SourceSettings) : Backoff :=
  ⟨max s.maxAttempts.toNat 1, s.initialBackoffMs.toNat⟩

def timeoutMs (s : SourceSettings) : Nat :=
  s.timeoutSecs.toNat * 1000

/-- How long the source is blocked after its quota was exceeded, in seconds, if 64 bits hold them. -/
def blockSecs? (s : SourceSettings) : Option UInt64 :=
  if s.blockMinutes.toNat * 60 < UInt64.size then some (s.blockMinutes * 60) else none

end SourceSettings

structure SourceTable where
  themeParksWiki : SourceSettings := {}
  queueTimes : SourceSettings := {}
  wartezeiten : SourceSettings := { requestsPerMinute := some 60 }
  deriving DecidableEq, Repr

namespace SourceTable

def get (t : SourceTable) : Provider → SourceSettings
  | .themeParksWiki => t.themeParksWiki
  | .queueTimes => t.queueTimes
  | .wartezeiten => t.wartezeiten

def modify (t : SourceTable) (f : SourceSettings → SourceSettings) : Provider → SourceTable
  | .themeParksWiki => { t with themeParksWiki := f t.themeParksWiki }
  | .queueTimes => { t with queueTimes := f t.queueTimes }
  | .wartezeiten => { t with wartezeiten := f t.wartezeiten }

end SourceTable

structure Settings where
  logging : Logging := {}
  matching : MatchingSettings := {}
  merge : Merge.Policy := {}
  sources : SourceTable := {}
  deriving DecidableEq, Repr

/-- A setting that cannot be honoured. -/
inductive SettingsFault
  | threshold (name : String) (value : Float)
  | rounding
  | unknownSource (id : String)
  | noAttempts (provider : Provider)
  | noRequests (provider : Provider)
  deriving DecidableEq, Repr

def SettingsFault.message : SettingsFault → String
  | threshold name value =>
    "matching." ++ name ++ " must be in (0, 1], got " ++ Decimal.plain value
  | rounding => "resolver.wait_time_rounding must be positive"
  | unknownSource id => "resolver.priority names unknown source '" ++ id ++ "'"
  | noAttempts provider => "sources." ++ provider.id ++ ".max_attempts must be at least 1"
  | noRequests provider => "sources." ++ provider.id ++ ".requests_per_minute must be positive"

namespace Settings

def isThreshold (x : Float) : Bool :=
  0 < x && x ≤ 1

/-- All that cannot be honoured, in the order in which it is looked for. -/
def faults (s : Settings) : List SettingsFault :=
  [("park_threshold", s.matching.parkThreshold),
    ("entity_threshold", s.matching.entityThreshold)].filterMap (fun (name, value) ↦
      if isThreshold value then none else some (.threshold name value)) ++
  (if s.merge.rounding = 0 then [.rounding] else []) ++
  s.merge.priority.filterMap (fun id ↦
    if (Provider.ofId? id).isSome then none else some (.unknownSource id)) ++
  Provider.all.flatMap fun provider ↦
    let source := s.sources.get provider
    (if source.maxAttempts = 0 then [.noAttempts provider] else []) ++
    (if source.requestsPerMinute = some 0 then [.noRequests provider] else [])

/-- The settings, unless one of them cannot be honoured. -/
def check (s : Settings) : Except SettingsFault Settings :=
  match s.faults with
  | [] => .ok s
  | fault :: _ => .error fault

/-- Takes addresses from the environment. Blank ones do not count. -/
def withEnvironment (s : Settings) (env : String → Option String) : Settings :=
  Provider.all.foldl (fun s provider ↦
    match env provider.urlVariable with
    | some url =>
      if Unicode.isBlankText url then s
      else { s with sources := s.sources.modify ({ · with baseUrl := some url }) provider }
    | none => s) s

def source? (s : Settings) (id : String) : Option SourceSettings :=
  (Provider.ofId? id).map s.sources.get

end Settings

end ParkFusion
