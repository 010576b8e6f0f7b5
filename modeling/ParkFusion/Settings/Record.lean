import ParkFusion.Document.Record
import ParkFusion.Settings

namespace ParkFusion

open Document Record

variable (surplus : Surplus)

def Logging.ofDocument? (d : Document) : Option Logging := do
  let r ← Record.read surplus ["level", "json"] d
  let default : Logging := {}
  return {
    level := ← r.orElse "level" default.level text?
    json := ← r.orElse "json" default.json bool? }

/-- A pair of names. -/
def pairOfDocument? (d : Document) : Option (String × String) := do
  let r ← Record.read surplus ["left", "right"] d
  return (← r.required "left" text?, ← r.required "right" text?)

def MatchingSettings.ofDocument? (d : Document) : Option MatchingSettings := do
  let r ← Record.read surplus ["park_threshold", "entity_threshold", "overrides"] d
  let default : MatchingSettings := {}
  return {
    parkThreshold := ← r.orElse "park_threshold" default.parkThreshold float?
    entityThreshold := ← r.orElse "entity_threshold" default.entityThreshold float?
    overrides := ← r.orElse "overrides" default.overrides (list? (pairOfDocument? surplus)) }

def Merge.Policy.ofDocument? (d : Document) : Option Merge.Policy := do
  let r ← Record.read surplus ["wait_time_rounding", "discrepancy_threshold_minutes",
    "validation_window_minutes", "priority"] d
  let default : Merge.Policy := {}
  return {
    rounding := ← r.orElse "wait_time_rounding" default.rounding uint32?
    discrepancyThreshold :=
      ← r.orElse "discrepancy_threshold_minutes" default.discrepancyThreshold uint32?
    windowMinutes := ← r.orElse "validation_window_minutes" default.windowMinutes uint32?
    priority := ← r.orElse "priority" default.priority (list? text?) }

def SourceSettings.ofDocument? (d : Document) : Option SourceSettings := do
  let r ← Record.read surplus ["enabled", "base_url", "timeout_secs", "max_attempts",
    "initial_backoff_ms", "requests_per_minute", "block_minutes"] d
  let default : SourceSettings := {}
  return {
    enabled := ← r.orElse "enabled" default.enabled bool?
    baseUrl := ← r.orElse "base_url" default.baseUrl (optional? text?)
    timeoutSecs := ← r.orElse "timeout_secs" default.timeoutSecs uint64?
    maxAttempts := ← r.orElse "max_attempts" default.maxAttempts uint32?
    initialBackoffMs := ← r.orElse "initial_backoff_ms" default.initialBackoffMs uint64?
    requestsPerMinute :=
      ← r.orElse "requests_per_minute" default.requestsPerMinute (optional? uint32?)
    blockMinutes := ← r.orElse "block_minutes" default.blockMinutes uint64? }

def SourceTable.ofDocument? (d : Document) : Option SourceTable := do
  let r ← Record.read surplus (Provider.all.map Provider.id) d
  let default : SourceTable := {}
  let source := fun provider ↦
    r.orElse (Provider.id provider) (default.get provider) (SourceSettings.ofDocument? surplus)
  return {
    themeParksWiki := ← source .themeParksWiki
    queueTimes := ← source .queueTimes
    wartezeiten := ← source .wartezeiten }

def Settings.ofDocument? (d : Document) : Option Settings := do
  let r ← Record.read surplus ["logging", "matching", "resolver", "sources"] d
  return {
    logging := ← r.orElse "logging" {} (Logging.ofDocument? surplus)
    matching := ← r.orElse "matching" {} (MatchingSettings.ofDocument? surplus)
    merge := ← r.orElse "resolver" {} (Merge.Policy.ofDocument? surplus)
    sources := ← r.orElse "sources" {} (SourceTable.ofDocument? surplus) }

def SourceSettings.toDocument (s : SourceSettings) : Document :=
  table [("enabled", Document.bool s.enabled), ("base_url", ofOption text s.baseUrl),
    ("timeout_secs", ofNat s.timeoutSecs.toNat), ("max_attempts", ofNat s.maxAttempts.toNat),
    ("initial_backoff_ms", ofNat s.initialBackoffMs.toNat),
    ("requests_per_minute", ofOption (fun n : UInt32 ↦ ofNat n.toNat) s.requestsPerMinute),
    ("block_minutes", ofNat s.blockMinutes.toNat)]

def Settings.toDocument (number : Float → Document) (s : Settings) : Document :=
  table [
    ("logging", table [("level", text s.logging.level), ("json", Document.bool s.logging.json)]),
    ("matching", table [("park_threshold", number s.matching.parkThreshold),
      ("entity_threshold", number s.matching.entityThreshold),
      ("overrides", list (s.matching.overrides.map fun (left, right) ↦
        table [("left", text left), ("right", text right)]))]),
    ("resolver", table [("wait_time_rounding", ofNat s.merge.rounding.toNat),
      ("discrepancy_threshold_minutes", ofNat s.merge.discrepancyThreshold.toNat),
      ("validation_window_minutes", ofNat s.merge.windowMinutes.toNat),
      ("priority", ofTexts s.merge.priority)]),
    ("sources", table (Provider.all.map fun provider ↦
      (provider.id, (s.sources.get provider).toDocument)))]

end ParkFusion
