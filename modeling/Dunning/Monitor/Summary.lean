import Dunning.Monitor.Basic

/-!
# Monitor summaries

A snapshot of all statistics, and its JSON form with the members in a fixed order.
-/

namespace Dunning

/-- The statistics of one tier in a `Summary`. -/
structure TierSummary where
  tier : Tier
  hits : Nat
  /-- Share of all requests, in percent. -/
  usagePct : Float
  avgTimeMs : Float
  /-- Mean success of the rule tier, mean confidence of the next two, zero for the cache. -/
  avgSuccess : Float

/-- A snapshot of all statistics of a `Monitor`. -/
structure Summary where
  total : Nat
  errors : Nat
  errorRate : Float
  avgTimeMs : Float
  tiers : List TierSummary
  cache : CacheStats
  hitRate : Float
  alerts : List Alert

namespace Monitor

/-- The statistics of `tier`. -/
def tierSummary (m : Monitor) (tier : Tier) : TierSummary :=
  let stats := m.tiers.get tier
  { tier
    hits := stats.hits
    usagePct := Float.ofNat stats.hits / Float.ofNat (max m.total 1) * 100
    avgTimeMs := stats.times.meanOrZero
    avgSuccess := stats.success.meanOrZero }

/-- A snapshot of all statistics, each tier's by `tierSummary`. -/
def summary (m : Monitor) : Summary :=
  { total := m.total
    errors := m.errors
    errorRate := m.errorRate
    avgTimeMs := m.times.meanOrZero
    tiers := Tier.all.map m.tierSummary
    cache := m.cache
    hitRate := m.cache.hitRate
    alerts := m.alerts.recent m.config.recentAlerts }

end Monitor

/-- The JSON form of an `Alert`. -/
def Alert.toJson (a : Alert) : Json :=
  .obj [("type", .str a.kind.tag), ("message", .str a.message), ("timestamp", .str a.time.text)]

/-- The JSON form of a `TierSummary`. -/
def TierSummary.toJson (t : TierSummary) : Json :=
  .obj [("tier", .str t.tier.tag), ("hits", .nat t.hits), ("usage_pct", .ofFloat t.usagePct),
    ("avg_response_time_ms", .ofFloat t.avgTimeMs), ("avg_success", .ofFloat t.avgSuccess)]

/-- The JSON form of the `CacheStats`. -/
def CacheStats.toJson (c : CacheStats) : Json :=
  .obj [("hits", .nat c.hits), ("misses", .nat c.misses), ("evictions", .nat c.evictions),
    ("size", .nat c.size), ("hit_rate", .ofFloat c.hitRate)]

/-- The JSON form of a summary made at the time `now`. -/
def Summary.toJson (now : Timestamp) (s : Summary) : Json :=
  .obj [("total_requests", .nat s.total), ("error_count", .nat s.errors),
    ("error_rate", .ofFloat s.errorRate), ("avg_response_time_ms", .ofFloat s.avgTimeMs),
    ("tiers", .arr (s.tiers.map TierSummary.toJson)), ("cache", s.cache.toJson),
    ("recent_alerts", .arr (s.alerts.map Alert.toJson)), ("timestamp", .str now.text)]

end Dunning
