import Dunning.Decimal.Fixed
import Dunning.Monitor.Alert
import Dunning.Monitor.Config
import Dunning.Tier

/-!
# The monitor

Counts requests and cache events, keeps rolling windows of response times and success signals, and
raises alerts when a threshold is passed. An alert is decided by the counts and windows that include
the request just recorded.
-/

namespace Dunning

/-- One value for each `Tier`. -/
structure PerTier (α : Type) where
  rule : α
  ml : α
  fallback : α
  cache : α

namespace PerTier

variable {α : Type}

/-- The value of a tier. -/
def get (p : PerTier α) : Tier → α
  | .rule => p.rule
  | .ml => p.ml
  | .fallback => p.fallback
  | .cache => p.cache

/-- Changes the value of one tier. -/
def modify (p : PerTier α) (f : α → α) : Tier → PerTier α
  | .rule => { p with rule := f p.rule }
  | .ml => { p with ml := f p.ml }
  | .fallback => { p with fallback := f p.fallback }
  | .cache => { p with cache := f p.cache }

@[simp] theorem get_modify_self (p : PerTier α) (f : α → α) (t : Tier) :
    (p.modify f t).get t = f (p.get t) := by
  cases t <;> rfl

theorem get_modify_of_ne (p : PerTier α) (f : α → α) {t u : Tier} (h : u ≠ t) :
    (p.modify f t).get u = p.get u := by
  cases t <;> cases u <;> first | rfl | exact absurd rfl h

end PerTier

/-- What is kept about one tier. -/
structure TierStats where
  hits : Nat
  times : Window
  success : Window

/-- Counts of cache events, and the size last reported. -/
structure CacheStats where
  hits : Nat := 0
  misses : Nat := 0
  evictions : Nat := 0
  size : Nat := 0
deriving DecidableEq, Repr

namespace CacheStats

/-- The `hits` and `misses` together. -/
def lookups (c : CacheStats) : Nat := c.hits + c.misses

/-- The share of `hits` among the `lookups`, zero when there are none. -/
def hitRate (c : CacheStats) : Float :=
  if c.lookups = 0 then 0 else Float.ofNat c.hits / Float.ofNat c.lookups

/-- Counts a `CacheEvent`. -/
def record (c : CacheStats) : CacheEvent → CacheStats
  | .hit => { c with hits := c.hits + 1 }
  | .miss => { c with misses := c.misses + 1 }
  | .eviction => { c with evictions := c.evictions + 1 }

end CacheStats

/-- A request that was answered, and how. -/
structure Request where
  tier : Tier
  timeMs : Float
  success : Bool
  confidence : Float

namespace Request

/-- The response time as it is kept: an `elapsedMs` that is no positive number counts as zero. -/
def keptTime (r : Request) : Float :=
  if Decimal.isFinite r.timeMs && decide (r.timeMs > 0) then r.timeMs else 0

/-- The confidence as it is kept: between zero and one, and zero for what is not a number. -/
def keptConfidence (r : Request) : Float :=
  if r.confidence.isNaN then 0
  else if r.confidence < 0 then 0
  else if r.confidence > 1 then 1
  else r.confidence

/-- The signal that the tier's success window gets: success for the rule tier, `keptConfidence` for
the next two, none for the cache. -/
def signal? (r : Request) : Option Float :=
  match r.tier with
  | .rule => some (if r.success then 1 else 0)
  | .ml | .fallback => some r.keptConfidence
  | .cache => none

end Request

/-- Counters, windows and alerts since the last reset. -/
structure Monitor where
  config : MonitorConfig
  total : Nat
  errors : Nat
  tiers : PerTier TierStats
  times : Window
  cache : CacheStats
  alerts : AlertLog

namespace Monitor

/-- A monitor that has seen nothing, with its windows and log as `config` says. -/
def empty (config : MonitorConfig) : Monitor :=
  let window := Window.empty config.windowCapacity
  let stats : TierStats := ⟨0, window, window⟩
  { config
    total := 0
    errors := 0
    tiers := ⟨stats, stats, stats, stats⟩
    times := window
    cache := {}
    alerts := .empty config.alertDedupWindow }

/-- The share of `errors` in the `total`, zero when there are none. -/
def errorRate (m : Monitor) : Float :=
  Float.ofNat m.errors / Float.ofNat (max m.total 1)

/-- The message of an alert of the given `AlertKind`, when its threshold is passed. -/
def breach? (m : Monitor) : AlertKind → Option String
  | .highResponseTime =>
    m.times.mean?.bind fun mean =>
      if mean > m.config.highResponseTimeMs then
        let shown := Decimal.fixed 1 mean
        let limit := Decimal.fixed 0 m.config.highResponseTimeMs
        some s!"Average response time {shown} ms exceeds {limit} ms"
      else none
  | .highErrorRate =>
    if m.total > m.config.minRequestsForErrorRate ∧ m.errorRate > m.config.highErrorRate then
      let shown := Decimal.fixed 1 (m.errorRate * 100)
      let limit := Decimal.fixed 1 (m.config.highErrorRate * 100)
      some s!"Error rate {shown}% exceeds {limit}%"
    else none
  | .lowMlConfidence =>
    m.tiers.ml.success.mean?.bind fun mean =>
      if mean < m.config.lowMlConfidence then
        let shown := Decimal.fixed 2 mean
        let limit := Decimal.fixed 2 m.config.lowMlConfidence
        some s!"Average ML confidence {shown} below {limit}"
      else none
  | .lowCacheHitRate =>
    if m.cache.lookups > m.config.minCacheSamples ∧ m.cache.hitRate < m.config.lowCacheHitRate then
      let shown := Decimal.fixed 1 (m.cache.hitRate * 100)
      let limit := Decimal.fixed 1 (m.config.lowCacheHitRate * 100)
      some s!"Cache hit rate {shown}% below {limit}%"
    else none

/-- Raises the alert of `kind` if `breach?` has a message for it. -/
def checkKind (now : Timestamp) (m : Monitor) (kind : AlertKind) : Monitor :=
  match m.breach? kind with
  | none => m
  | some message => { m with alerts := (m.alerts.raise ⟨kind, message, now⟩).1 }

/-- Checks every kind in order, by `checkKind`. -/
def checkAlerts (now : Timestamp) (m : Monitor) : Monitor :=
  AlertKind.all.foldl (checkKind now) m

/-- Adds the request `r` to one tier's statistics. -/
def TierStats.add (r : Request) (s : TierStats) : TierStats :=
  { hits := s.hits + 1
    times := s.times.push r.keptTime
    success := (r.signal?.map s.success.push).getD s.success }

/-- Adds the request `r` to the counters and windows, its tier's by `TierStats.add`. -/
def count (m : Monitor) (r : Request) : Monitor :=
  { m with
    total := m.total + 1
    errors := if r.success then m.errors else m.errors + 1
    tiers := m.tiers.modify (TierStats.add r) r.tier
    times := m.times.push r.keptTime }

/-- Records the request `r`: `count`, then `checkAlerts`. -/
def record (m : Monitor) (now : Timestamp) (r : Request) : Monitor :=
  (m.count r).checkAlerts now

/-- Counts a `CacheEvent`. -/
def recordCache (m : Monitor) (event : CacheEvent) : Monitor :=
  { m with cache := m.cache.record event }

/-- Stores the size of the cache. -/
def setCacheSize (m : Monitor) (size : Nat) : Monitor :=
  { m with cache := { m.cache with size } }

/-- Forgets everything but `config`. -/
def reset (m : Monitor) : Monitor :=
  empty m.config

/-- Something that a monitor is told. -/
inductive Event where
  | request (now : Timestamp) (r : Request)
  | cache (event : CacheEvent)
  | cacheSize (size : Nat)
  | reset

/-- What an `Event` does. -/
def step (m : Monitor) : Event → Monitor
  | .request now r => m.record now r
  | .cache event => m.recordCache event
  | .cacheSize size => m.setCacheSize size
  | .reset => m.reset

/-- What `events` do one after another, by `step`. -/
def run (m : Monitor) (events : List Event) : Monitor :=
  events.foldl step m

end Monitor

end Dunning
