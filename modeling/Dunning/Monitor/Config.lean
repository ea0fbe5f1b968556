import Dunning.Json.Record

/-!
# Monitor configuration

Sizes of the windows and thresholds of the alerts.
-/

namespace Dunning

/-- Window sizes and alert thresholds of a `Monitor`. -/
structure MonitorConfig where
  /-- Capacity of every rolling window. -/
  windowCapacity : Nat := 100
  /-- Number of alerts in a summary. -/
  recentAlerts : Nat := 10
  /-- An alert is not repeated while one of its kind is among so many latest ones. -/
  alertDedupWindow : Nat := 5
  /-- Mean response time above which an alert is raised. -/
  highResponseTimeMs : Float := 2000.0
  /-- Error rate above which an alert is raised. -/
  highErrorRate : Float := 0.10
  /-- The error rate is judged above so many requests. -/
  minRequestsForErrorRate : Nat := 10
  /-- Mean classifier confidence below which an alert is raised. -/
  lowMlConfidence : Float := 0.50
  /-- Cache hit rate below which an alert is raised. -/
  lowCacheHitRate : Float := 0.30
  /-- The hit rate is judged above so many lookups. -/
  minCacheSamples : Nat := 20

namespace MonitorConfig

open RecordValue

/-- The names of the fields, in declared order, for `read?`. -/
def fieldNames : List String :=
  ["window_capacity", "recent_alerts", "alert_dedup_window", "high_response_time_ms",
    "high_error_rate", "min_requests_for_error_rate", "low_ml_confidence", "low_cache_hit_rate",
    "min_cache_samples"]

/-- Reads a configuration; absent fields have their defaults. -/
def read? {ν : Type} {m : Type → Type} [Monad m] [MonadExceptOf Unit m]
    [RecordValue ν m] (value : ν) : m MonitorConfig := do
  let d : MonitorConfig := {}
  match ← fields? fieldNames value with
  | [capacity, recent, dedup, time, errors, requests, confidence, hits, samples] =>
    return {
      windowCapacity := ← defaulted d.windowCapacity asCount? capacity
      recentAlerts := ← defaulted d.recentAlerts asCount? recent
      alertDedupWindow := ← defaulted d.alertDedupWindow asCount? dedup
      highResponseTimeMs := ← defaulted d.highResponseTimeMs asFloat? time
      highErrorRate := ← defaulted d.highErrorRate asFloat? errors
      minRequestsForErrorRate := ← defaulted d.minRequestsForErrorRate asCount? requests
      lowMlConfidence := ← defaulted d.lowMlConfidence asFloat? confidence
      lowCacheHitRate := ← defaulted d.lowCacheHitRate asFloat? hits
      minCacheSamples := ← defaulted d.minCacheSamples asCount? samples }
  | _ => throw ()

/-- Writes a `MonitorConfig`. -/
def toJson (c : MonitorConfig) : Json :=
  .ofMembers [
    ("window_capacity", .nat c.windowCapacity),
    ("recent_alerts", .nat c.recentAlerts),
    ("alert_dedup_window", .nat c.alertDedupWindow),
    ("high_response_time_ms", .ofFloat c.highResponseTimeMs),
    ("high_error_rate", .ofFloat c.highErrorRate),
    ("min_requests_for_error_rate", .nat c.minRequestsForErrorRate),
    ("low_ml_confidence", .ofFloat c.lowMlConfidence),
    ("low_cache_hit_rate", .ofFloat c.lowCacheHitRate),
    ("min_cache_samples", .nat c.minCacheSamples)]

end MonitorConfig

end Dunning
