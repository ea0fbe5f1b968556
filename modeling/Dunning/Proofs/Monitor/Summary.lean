import Dunning.Monitor.Summary
import Dunning.Proofs.Monitor.History
import Mathlib.Algebra.GroupWithZero.Nat

/-!
# What a monitor answers

A monitor is told of events and asked for summaries in any order. `Summary.Reports` says what a
summary is to say of a history, in terms of the history alone: numbers of requests and of cache
events, and means of the last samples. The main statement is that every summary reports the history
since the last reset (`reports_serve`); asking for one changes nothing, and after a reset a monitor
answers as a new one does.
-/

namespace Dunning

namespace Monitor

/-- What can be asked of a monitor. -/
inductive Call where
  /-- It is told of an event. -/
  | tell (e : Event)
  /-- It is asked for a summary. -/
  | ask

/-- The event that a call tells of, if it tells of one. -/
def Call.event? : Call → Option Event
  | .tell e => some e
  | .ask => none

/-- The history that calls tell of: the events after the last reset. -/
def history (calls : List Call) : List Event :=
  sinceReset (calls.filterMap Call.event?)

/-- The monitor after a call, and its `summary` if it was asked for one. -/
def answer (m : Monitor) : Call → Monitor × List Summary
  | .tell e => (m.step e, [])
  | .ask => (m, [m.summary])

/-- The monitor after a number of calls, and the summaries that it gave, in order. -/
def serve (m : Monitor) : List Call → Monitor × List Summary
  | [] => (m, [])
  | call :: calls =>
    let (after, now) := m.answer call
    let (last, later) := after.serve calls
    (last, now ++ later)

/-- The mean of the last `samples`, of all there are up to the `capacity` of a window: their sum
from left to right over their number, and zero when there are none. -/
def recentMean (capacity : Nat) (samples : List Float) : Float :=
  let count := min samples.length (max capacity 1)
  if count = 0 then 0 else (lastN count samples).foldl (· + ·) (-0.0) / Float.ofNat count

end Monitor

open Monitor

/-- What a summary says of `tier`, given the requests `rs` that the tier decided and the `total`
number of requests. -/
def TierSummary.ofRequests (capacity total : Nat) (tier : Tier) (rs : List Request) :
    TierSummary where
  tier := tier
  hits := rs.length
  usagePct := Float.ofNat rs.length / Float.ofNat (max total 1) * 100
  avgTimeMs := recentMean capacity (timesOf rs)
  avgSuccess := recentMean capacity (signals tier rs)

/-- What the summary `s` is to say of the history `events`, for a monitor whose windows have the
given `capacity`. Times and confidences count as `sanitizedTime` and `sanitizedConfidence` have it.
-/
structure Summary.Reports (s : Summary) (capacity : Nat) (events : List Event) : Prop where
  total : s.total = (requests events).length
  errors : s.errors = (requests events).countP fun r => !r.success
  errors_le : s.errors ≤ s.total
  errorRate : s.errorRate = Float.ofNat s.errors / Float.ofNat (max s.total 1)
  avgTimeMs : s.avgTimeMs = recentMean capacity (timesOf (requests events))
  tiers : s.tiers = Tier.all.map fun t => .ofRequests capacity s.total t (requestsOf t events)
  /-- Every request is counted for one tier. -/
  hits : (s.tiers.map (·.hits)).sum = s.total
  cache : s.cache =
    { hits := (cacheEvents events).count .hit
      misses := (cacheEvents events).count .miss
      evictions := (cacheEvents events).count .eviction
      size := lastSize events }
  hitRate : s.hitRate = if s.cache.hits + s.cache.misses = 0 then 0
    else Float.ofNat s.cache.hits / Float.ofNat (s.cache.hits + s.cache.misses)

namespace Monitor

/-! ## Means -/

theorem lastN_min_length (n : Nat) (samples : List Float) :
    lastN (min samples.length n) samples = lastN n samples := by
  unfold lastN
  congr 1
  omega

/-- The mean that a window gives is the `recentMean` of the samples that were put into it. -/
theorem meanOrZero_ofSamples (capacity : Nat) (samples : List Float) :
    (Window.ofSamples capacity samples).meanOrZero = recentMean capacity samples := by
  have hlength : (lastN (max capacity 1) samples).length = min samples.length (max capacity 1) := by
    rw [length_lastN, Nat.min_comm]
  unfold Window.meanOrZero Window.mean? Window.meanOf recentMean Window.ofSamples
  dsimp only
  rw [lastN_min_length, ← hlength]
  by_cases hnone : lastN (max capacity 1) samples = []
  · simp [hnone]
  · simp [hnone, Window.sum]

/-! ## Hits -/

theorem sum_requestsOf (events : List Event) :
    (Tier.all.map fun t => (requestsOf t events).length).sum = (requests events).length := by
  unfold requestsOf
  generalize requests events = rs
  induction rs with
  | nil => rfl
  | cons r rs ih =>
    simp only [Tier.all, List.map_cons, List.map_nil, List.sum_cons, List.sum_nil] at ih ⊢
    cases htier : r.tier <;> simp [htier] <;> omega

/-! ## Summaries -/

/-- A monitor that `Reflects` a history reports it. -/
theorem Reflects.reports {m : Monitor} {events : List Event} (h : m.Reflects events) :
    m.summary.Reports m.config.windowCapacity events where
  total := h.total
  errors := h.errors
  errors_le := by
    show m.errors ≤ m.total
    rw [h.errors, h.total]
    exact List.countP_le_length
  errorRate := rfl
  avgTimeMs := by
    show m.times.meanOrZero = _
    rw [h.times, meanOrZero_ofSamples]
  tiers := by
    apply List.map_congr_left
    intro t _
    simp only [tierSummary, h.tiers, meanOrZero_ofSamples, TierSummary.ofRequests]
    rfl
  hits := by
    show ((Tier.all.map m.tierSummary).map (·.hits)).sum = m.total
    have hhits : (Tier.all.map m.tierSummary).map (·.hits) =
        Tier.all.map fun t => (requestsOf t events).length := by
      rw [List.map_map]
      apply List.map_congr_left
      intro t _
      simp only [Function.comp, tierSummary, h.tiers]
    rw [hhits, sum_requestsOf, h.total]
  cache := h.cache
  hitRate := rfl

/-! ## Serving calls -/

variable (m : Monitor)

@[simp] theorem serve_nil : m.serve [] = (m, []) := rfl

theorem serve_tell (e : Event) (calls : List Call) :
    m.serve (.tell e :: calls) = (m.step e).serve calls := rfl

theorem serve_ask (calls : List Call) :
    m.serve (.ask :: calls) = ((m.serve calls).1, m.summary :: (m.serve calls).2) := rfl

theorem serve_append (calls more : List Call) :
    m.serve (calls ++ more) =
      (((m.serve calls).1.serve more).1, (m.serve calls).2 ++ ((m.serve calls).1.serve more).2) := by
  induction calls generalizing m with
  | nil => rfl
  | cons call calls ih =>
    cases call with
    | tell e => rw [List.cons_append, serve_tell, serve_tell, ih]
    | ask => rw [List.cons_append, serve_ask, serve_ask, ih, List.cons_append]

/-- Only what a monitor was told of (`Call.tell`) makes it what it is. -/
theorem serve_eq_run (calls : List Call) :
    (m.serve calls).1 = m.run (calls.filterMap Call.event?) := by
  induction calls generalizing m with
  | nil => rfl
  | cons call calls ih =>
    cases call with
    | tell e =>
      rw [serve_tell, ih]
      rfl
    | ask =>
      rw [serve_ask]
      exact ih m

theorem reflects_serve (config : MonitorConfig) (calls : List Call) :
    ((empty config).serve calls).1.Reflects (history calls) := by
  rw [serve_eq_run]
  exact reflects_run config _

/-- However it was called before, a monitor summarises what it was told of since the last reset
(`Summary.Reports`). To ask for a summary changes nothing, and after a reset a monitor answers as a
new one does. -/
theorem reports_serve (config : MonitorConfig) (calls more : List Call) :
    let served := (empty config).serve calls
    let rest := served.1.serve more
    let fresh := (empty config).serve more
    served.1.summary.Reports config.windowCapacity (history calls) ∧
    (empty config).serve (calls ++ more) = (rest.1, served.2 ++ rest.2) ∧
    (empty config).serve (calls ++ .ask :: more) =
      (rest.1, served.2 ++ served.1.summary :: rest.2) ∧
    (empty config).serve (calls ++ .tell .reset :: more) = (fresh.1, served.2 ++ fresh.2) := by
  intro served rest fresh
  have hconfig : served.1.config = config := by
    show ((empty config).serve calls).1.config = config
    rw [serve_eq_run, config_run]
    rfl
  refine ⟨?_, serve_append _ _ _, ?_, ?_⟩
  · have hreports := (reflects_serve config calls).reports
    rwa [show ((empty config).serve calls).1.config = config from hconfig] at hreports
  · rw [serve_append, serve_ask]
  · -- resetting leaves nothing but the configuration, and that was never changed
    have hreset : served.1.step .reset = empty config := congrArg empty hconfig
    rw [serve_append, serve_tell, hreset]

end Monitor

end Dunning
