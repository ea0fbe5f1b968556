import Dunning.Proofs.Monitor.Samples
import Mathlib.Data.List.DropRight

/-!
# What a monitor keeps of its history

The history of a monitor is the list of events since the last reset. Every counter and every window
is a function of that list: counters count the events of their kind, and a window holds the last
samples of its subsequence. `Monitor.Reflects` says so of a monitor and a history without following
the order of the updates; one event keeps it (`Reflects.step`), and so it holds after any run
(`reflects_run`). Alerts are not part of it: checking them changes nothing but the log.
-/

namespace Dunning

/-! ## Windows -/

/-- The window that was given `samples`, oldest first. -/
def Window.ofSamples (capacity : Nat) (samples : List Float) : Window :=
  ⟨max capacity 1, lastN (max capacity 1) samples⟩

@[simp] theorem Window.ofSamples_nil (capacity : Nat) : ofSamples capacity [] = empty capacity := by
  simp [ofSamples, empty, lastN]

theorem Window.push_ofSamples (capacity : Nat) (samples : List Float) (sample : Float) :
    (ofSamples capacity samples).push sample = ofSamples capacity (samples ++ [sample]) := by
  simp only [ofSamples, push, lastN_append_lastN]

/-! ## Histories -/

namespace Monitor

/-- Whether an event makes the monitor forget. -/
def Event.isReset : Event → Bool
  | .reset => true
  | _ => false

/-- The request that an event reports, if it reports one. -/
def Event.request? : Event → Option Request
  | .request _ r => some r
  | _ => none

/-- What an event says of the cache, if it says something. -/
def Event.cache? : Event → Option CacheEvent
  | .cache event => some event
  | _ => none

/-- The size of the cache that an event reports, if it reports one. -/
def Event.size? : Event → Option Nat
  | .cacheSize size => some size
  | _ => none

/-- The events after the last `Event.reset`. -/
def sinceReset (events : List Event) : List Event :=
  events.rtakeWhile fun e => !e.isReset

/-- The requests of a history, oldest first. -/
def requests (events : List Event) : List Request :=
  events.filterMap Event.request?

/-- The requests of a history that `tier` decided. -/
def requestsOf (tier : Tier) (events : List Event) : List Request :=
  (requests events).filter (·.tier = tier)

/-- What a history says of the cache. -/
def cacheEvents (events : List Event) : List CacheEvent :=
  events.filterMap Event.cache?

/-- The size of the cache reported last, zero when there was no report. -/
def lastSize (events : List Event) : Nat :=
  (events.filterMap Event.size?).getLast?.getD 0

/-- The times of requests, each as it counts (`sanitizedTime`). -/
def timesOf (rs : List Request) : List Float :=
  rs.map fun r => sanitizedTime r.timeMs

/-- The confidences of requests, each as it counts (`sanitizedConfidence`). -/
def confidencesOf (rs : List Request) : List Float :=
  rs.map fun r => sanitizedConfidence r.confidence

/-- The signals of a tier's requests: whether they succeeded for the rules, how sure the classifier
and the general service were, and nothing for the cache. -/
def signals (tier : Tier) (rs : List Request) : List Float :=
  match tier with
  | .rule => rs.map fun r => if r.success then 1 else 0
  | .ml => confidencesOf rs
  | .fallback => confidencesOf rs
  | .cache => []

@[simp] theorem sinceReset_nil : sinceReset [] = [] := rfl

theorem sinceReset_concat (events : List Event) (e : Event) :
    sinceReset (events ++ [e]) = if e.isReset then [] else sinceReset events ++ [e] := by
  unfold sinceReset
  rw [List.rtakeWhile_concat]
  cases e.isReset <;> rfl

theorem requests_concat (events : List Event) (e : Event) :
    requests (events ++ [e]) = requests events ++ e.request?.toList := by
  unfold requests
  cases h : e.request? <;> simp [h]

theorem requestsOf_concat (tier : Tier) (events : List Event) (e : Event) :
    requestsOf tier (events ++ [e]) =
      requestsOf tier events ++ e.request?.toList.filter (·.tier = tier) := by
  rw [requestsOf, requests_concat, List.filter_append, requestsOf]

theorem cacheEvents_concat (events : List Event) (e : Event) :
    cacheEvents (events ++ [e]) = cacheEvents events ++ e.cache?.toList := by
  unfold cacheEvents
  cases h : e.cache? <;> simp [h]

theorem lastSize_concat (events : List Event) (e : Event) :
    lastSize (events ++ [e]) = e.size?.getD (lastSize events) := by
  unfold lastSize
  cases h : e.size? <;> simp [h]

@[simp] theorem timesOf_eq_nil {rs : List Request} : timesOf rs = [] ↔ rs = [] := List.map_eq_nil_iff

@[simp] theorem confidencesOf_eq_nil {rs : List Request} : confidencesOf rs = [] ↔ rs = [] :=
  List.map_eq_nil_iff

theorem timesOf_concat (rs : List Request) (r : Request) :
    timesOf (rs ++ [r]) = timesOf rs ++ [r.keptTime] := by
  simp [timesOf, r.keptTime_eq]

theorem signals_append (tier : Tier) (rs rs' : List Request) :
    signals tier (rs ++ rs') = signals tier rs ++ signals tier rs' := by
  cases tier <;> simp [signals, confidencesOf]

/-- The signal of the request `r` is the one that the monitor puts into the window of its tier
(`Request.signal?`). -/
theorem signals_singleton (r : Request) : signals r.tier [r] = r.signal?.toList := by
  unfold signals confidencesOf Request.signal?
  rw [r.keptConfidence_eq]
  cases r.tier <;> rfl

/-! ## What is kept -/

/-- The counters and windows of the monitor `m` are those of the history `events`. -/
structure Reflects (m : Monitor) (events : List Event) : Prop where
  total : m.total = (requests events).length
  errors : m.errors = (requests events).countP fun r => !r.success
  times : m.times = .ofSamples m.config.windowCapacity (timesOf (requests events))
  tiers : ∀ t, m.tiers.get t =
    { hits := (requestsOf t events).length
      times := .ofSamples m.config.windowCapacity (timesOf (requestsOf t events))
      success := .ofSamples m.config.windowCapacity (signals t (requestsOf t events)) }
  cache : m.cache =
    { hits := (cacheEvents events).count .hit
      misses := (cacheEvents events).count .miss
      evictions := (cacheEvents events).count .eviction
      size := lastSize events }

theorem reflects_empty (config : MonitorConfig) : (empty config).Reflects [] where
  total := rfl
  errors := rfl
  times := by simp [empty, requests, timesOf]
  tiers := by
    intro t
    cases t <;> simp [empty, PerTier.get, requestsOf, requests, timesOf, confidencesOf, signals]
  cache := rfl

theorem checkKind_eq (now : Timestamp) (m : Monitor) (kind : AlertKind) :
    ∃ log, checkKind now m kind = { m with alerts := log } := by
  unfold checkKind
  cases m.breach? kind with
  | none => exact ⟨m.alerts, rfl⟩
  | some message => exact ⟨_, rfl⟩

/-- `checkAlerts` changes the log of alerts only. -/
theorem checkAlerts_eq (now : Timestamp) (m : Monitor) :
    ∃ log, m.checkAlerts now = { m with alerts := log } := by
  unfold checkAlerts
  generalize AlertKind.all = kinds
  induction kinds generalizing m with
  | nil => exact ⟨m.alerts, rfl⟩
  | cons kind kinds ih =>
    obtain ⟨log, hlog⟩ := checkKind_eq now m kind
    obtain ⟨log', hlog'⟩ := ih (checkKind now m kind)
    refine ⟨log', ?_⟩
    rw [List.foldl_cons, hlog', hlog]

@[simp] theorem config_step (m : Monitor) (e : Event) : (m.step e).config = m.config := by
  cases e with
  | request now r =>
    obtain ⟨log, hlog⟩ := checkAlerts_eq now (m.count r)
    show ((m.count r).checkAlerts now).config = m.config
    rw [hlog]
    rfl
  | cache event => rfl
  | cacheSize size => rfl
  | reset => rfl

namespace Reflects

variable {m : Monitor} {events : List Event}

theorem withAlerts (h : m.Reflects events) (log : AlertLog) :
    { m with alerts := log }.Reflects events :=
  ⟨h.total, h.errors, h.times, h.tiers, h.cache⟩

/-- The tier that the request `r` is counted for is given its time and its signal. -/
theorem tier_add (h : m.Reflects events) (now : Timestamp) (r : Request) :
    TierStats.add r (m.tiers.get r.tier) =
      { hits := (requestsOf r.tier (events ++ [.request now r])).length
        times := .ofSamples m.config.windowCapacity
          (timesOf (requestsOf r.tier (events ++ [.request now r])))
        success := .ofSamples m.config.windowCapacity
          (signals r.tier (requestsOf r.tier (events ++ [.request now r]))) } := by
  have hrequests : requestsOf r.tier (events ++ [.request now r]) =
      requestsOf r.tier events ++ [r] := by
    rw [requestsOf_concat]
    simp [Event.request?]
  rw [hrequests, h.tiers, timesOf_concat, signals_append, signals_singleton]
  cases hsignal : r.signal? with
  | none => simp [TierStats.add, hsignal, Window.push_ofSamples]
  | some signal => simp [TierStats.add, hsignal, Window.push_ofSamples]

theorem count (h : m.Reflects events) (now : Timestamp) (r : Request) :
    (m.count r).Reflects (events ++ [.request now r]) where
  total := by
    rw [requests_concat, List.length_append]
    exact congrArg (· + 1) h.total
  errors := by
    rw [requests_concat, List.countP_append, ← h.errors]
    cases hsuccess : r.success <;> simp [Monitor.count, Event.request?, hsuccess]
  times := by
    show m.times.push r.keptTime = _
    rw [h.times, Window.push_ofSamples, ← timesOf_concat, requests_concat]
    rfl
  tiers := by
    intro t
    by_cases ht : t = r.tier
    · subst ht
      show (m.tiers.modify (TierStats.add r) r.tier).get r.tier = _
      rw [PerTier.get_modify_self]
      exact h.tier_add now r
    · -- the other tiers get nothing, and their part of the history is as it was
      have hrequests : requestsOf t (events ++ [.request now r]) = requestsOf t events := by
        rw [requestsOf_concat]
        simp [Event.request?, Ne.symm ht]
      show (m.tiers.modify (TierStats.add r) r.tier).get t = _
      rw [PerTier.get_modify_of_ne m.tiers _ ht, hrequests]
      exact h.tiers t
  cache := by
    rw [cacheEvents_concat, lastSize_concat]
    simpa [Monitor.count, Event.cache?, Event.size?] using h.cache

/-- An event that says nothing of requests leaves the requests as they were. -/
theorem withCache (h : m.Reflects events) {e : Event} (he : e.request? = none) (cache : CacheStats)
    (hcache : cache =
      { hits := (cacheEvents (events ++ [e])).count .hit
        misses := (cacheEvents (events ++ [e])).count .miss
        evictions := (cacheEvents (events ++ [e])).count .eviction
        size := lastSize (events ++ [e]) }) :
    { m with cache }.Reflects (events ++ [e]) := by
  have hrequests : requests (events ++ [e]) = requests events := by
    rw [requests_concat, he]
    simp
  have hof : ∀ t, requestsOf t (events ++ [e]) = requestsOf t events := by
    intro t
    rw [requestsOf, hrequests, requestsOf]
  constructor
  · rw [hrequests]
    exact h.total
  · rw [hrequests]
    exact h.errors
  · rw [hrequests]
    exact h.times
  · intro t
    rw [hof]
    exact h.tiers t
  · exact hcache

/-- What one event `e` does to the counters and windows. -/
theorem step (h : m.Reflects events) (e : Event) :
    (m.step e).Reflects (if e.isReset then [] else events ++ [e]) := by
  cases e with
  | request now r =>
    obtain ⟨log, hlog⟩ := checkAlerts_eq now (m.count r)
    show ((m.count r).checkAlerts now).Reflects (events ++ [.request now r])
    rw [hlog]
    exact (h.count now r).withAlerts log
  | cache event =>
    apply h.withCache rfl
    rw [cacheEvents_concat, lastSize_concat, h.cache]
    cases event <;> simp [CacheStats.record, Event.cache?, Event.size?]
  | cacheSize size =>
    apply h.withCache rfl
    rw [cacheEvents_concat, lastSize_concat, h.cache]
    simp [Event.cache?, Event.size?]
  | reset => exact reflects_empty m.config

end Reflects

@[simp] theorem config_run (m : Monitor) (events : List Event) : (m.run events).config = m.config := by
  unfold run
  induction events generalizing m with
  | nil => rfl
  | cons e events ih => rw [List.foldl_cons, ih, config_step]

/-- After any events a monitor reflects those since the last reset. -/
theorem reflects_run (config : MonitorConfig) (events : List Event) :
    ((empty config).run events).Reflects (sinceReset events) := by
  induction events using List.reverseRecOn with
  | nil => exact reflects_empty config
  | append_singleton events e ih =>
    have hrun : (empty config).run (events ++ [e]) = ((empty config).run events).step e := by
      simp [run, List.foldl_append]
    rw [hrun, sinceReset_concat]
    exact ih.step e

end Monitor

end Dunning
