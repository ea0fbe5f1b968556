import Dunning.Proofs.Monitor.Deduplication
import Dunning.Proofs.Monitor.Summary

/-!
# A passed threshold is heard of

`Breached` says of a history, without a monitor, that a threshold is passed. The main statement
`heeds_request` is about every request that a monitor is told of: whatever it records for it is
about a threshold that is passed once the request is counted, and of every such threshold an alert
stands near the end of the log.

The four kinds are checked one after another on one log, so what is recorded for the first can push
an older alert out of the dedup window and change what is decided for the next. The bound survives
that: each kind is heard of when its turn comes, and no more than three alerts come after it
(`Records.exists_mem_lastN`).
-/

namespace Dunning

/-! ## The last elements of a longer list -/

theorem lastN_subset_of_le {α : Type} {n m : Nat} (h : n ≤ m) (xs : List α) :
    lastN n xs ⊆ lastN m xs := by
  rw [← lastN_lastN_of_le h]
  exact (lastN_suffix n _).subset

theorem lastN_append {α : Type} (n : Nat) (xs ys : List α) :
    lastN (n + ys.length) (xs ++ ys) = lastN n xs ++ ys := by
  unfold lastN
  rw [List.length_append, ← List.drop_append_of_le_length (by omega)]
  congr 1
  omega

/-- What is among the last elements (`lastN`) is not pushed further back than by what is added. -/
theorem mem_lastN_append {α : Type} {n k : Nat} {x : α} {xs ys : List α} (hx : x ∈ lastN n xs)
    (hk : ys.length ≤ k) : x ∈ lastN (n + k) (xs ++ ys) := by
  have hle : n + ys.length ≤ n + k := by omega
  apply lastN_subset_of_le hle
  rw [lastN_append]
  exact List.mem_append_left ys hx

/-! ## What a log makes of several alerts -/

namespace AlertLog

theorem raiseAll_sublist (log : AlertLog) (alerts : List Alert) :
    (log.raiseAll alerts).2.Sublist alerts := by
  induction alerts generalizing log with
  | nil => exact List.Sublist.refl []
  | cons alert alerts ih =>
    rw [raiseAll_cons]
    rcases log.raise_cases alert with ⟨_, hraise⟩ | ⟨_, hraise⟩
    · rw [hraise]
      exact (ih log).cons alert
    · rw [hraise]
      exact (ih _).cons_cons alert

namespace Records

variable {log : AlertLog} {window : Nat} {recorded : List Alert}

theorem alerts_raiseAll (h : log.Records window recorded) (alerts : List Alert) :
    (log.raiseAll alerts).1.alerts = lastN maxHistory (log.alerts ++ (log.raiseAll alerts).2) := by
  rw [(h.raiseAll alerts).kept, h.kept, lastN_append_lastN]

/-- An `alert` that was raised is heard of, whether it is new or was refused for an older one. -/
theorem exists_mem_lastN_raise (h : log.Records window recorded) (alert : Alert) :
    ∃ a ∈ lastN (max window 1) (recorded ++ (log.raise alert).2.toList), a.kind = alert.kind := by
  rcases h.raise_cases alert with ⟨⟨a, ha, hkind⟩, hraise⟩ | ⟨_, hraise⟩
  · rw [hraise]
    refine ⟨a, ?_, hkind⟩
    rw [Option.toList_none, List.append_nil]
    exact lastN_subset_of_le (by omega) recorded ha
  · rw [hraise]
    refine ⟨alert, ?_, rfl⟩
    have hlast : alert ∈ lastN (0 + 1) (recorded ++ [alert]) := by
      rw [← List.length_singleton (a := alert), lastN_append]
      exact List.mem_append_right _ (List.mem_singleton_self alert)
    exact lastN_subset_of_le (by omega) _ hlast

/-- Each of several `alerts` is heard of, pushed back by no more than those raised after it. -/
theorem exists_mem_lastN (h : log.Records window recorded) {alerts : List Alert} {alert : Alert}
    (halert : alert ∈ alerts) :
    ∃ a ∈ lastN (max window 1 + (alerts.length - 1)) (recorded ++ (log.raiseAll alerts).2),
      a.kind = alert.kind := by
  induction alerts generalizing log recorded with
  | nil => cases halert
  | cons first rest ih =>
    rw [raiseAll_cons, ← List.append_assoc, List.length_cons, Nat.add_sub_cancel]
    rcases List.mem_cons.1 halert with rfl | hrest
    · obtain ⟨a, ha, hkind⟩ := h.exists_mem_lastN_raise alert
      have hlater : ((log.raise alert).1.raiseAll rest).2.length ≤ rest.length :=
        (raiseAll_sublist _ rest).length_le
      exact ⟨a, mem_lastN_append ha hlater, hkind⟩
    · obtain ⟨a, ha, hkind⟩ := ih (h.raise first) hrest
      exact ⟨a, lastN_subset_of_le (by omega) _ ha, hkind⟩

end Records

end AlertLog

/-! ## Thresholds -/

namespace Monitor

/-- The threshold of a kind is passed in the history `events`: on average all requests took too
long, too many of them failed, the classifier was not sure enough, or the cache was of too little
use. -/
def Breached (config : MonitorConfig) (events : List Event) : AlertKind → Prop
  | .highResponseTime =>
    requests events ≠ [] ∧
    recentMean config.windowCapacity (timesOf (requests events)) > config.highResponseTimeMs
  | .highErrorRate =>
    (requests events).length > config.minRequestsForErrorRate ∧
    Float.ofNat ((requests events).countP fun r => !r.success) /
      Float.ofNat (requests events).length > config.highErrorRate
  | .lowMlConfidence =>
    requestsOf .ml events ≠ [] ∧
    recentMean config.windowCapacity (confidencesOf (requestsOf .ml events)) <
      config.lowMlConfidence
  | .lowCacheHitRate =>
    (cacheEvents events).count .hit + (cacheEvents events).count .miss > config.minCacheSamples ∧
    Float.ofNat ((cacheEvents events).count .hit) /
      Float.ofNat ((cacheEvents events).count .hit + (cacheEvents events).count .miss) <
        config.lowCacheHitRate

/-- A window of `samples` has a mean once there is one. -/
theorem mean?_ofSamples (capacity : Nat) (samples : List Float) :
    (Window.ofSamples capacity samples).mean? =
      if samples = [] then none else some (recentMean capacity samples) := by
  have hmean := meanOrZero_ofSamples capacity samples
  have hlength : (lastN (max capacity 1) samples).length = min (max capacity 1) samples.length :=
    length_lastN _ _
  unfold Window.meanOrZero at hmean
  unfold Window.mean? Window.meanOf Window.ofSamples at hmean ⊢
  by_cases hnone : samples = []
  · simp [hnone, lastN]
  · have hpos : 0 < samples.length := List.length_pos_iff.2 hnone
    have hkept : lastN (max capacity 1) samples ≠ [] := by
      rw [← List.length_pos_iff]
      omega
    simpa [hnone, hkept] using hmean

/-- A monitor that `Reflects` a history finds a threshold passed if it is passed in the history. -/
theorem Reflects.isSome_breach? {m : Monitor} {events : List Event} (h : m.Reflects events)
    (kind : AlertKind) : (m.breach? kind).isSome = true ↔ Breached m.config events kind := by
  cases kind with
  | highResponseTime =>
    unfold breach? Breached
    dsimp only
    rw [h.times, mean?_ofSamples]
    by_cases hnone : requests events = []
    · simp [hnone]
    · simp [hnone]
  | highErrorRate =>
    unfold breach? Breached errorRate
    dsimp only
    rw [h.total, h.errors, Option.isSome_ite]
    apply and_congr_right
    intro hmany
    rw [Nat.max_eq_left (by omega)]
  | lowMlConfidence =>
    have hml := h.tiers .ml
    unfold breach? Breached
    dsimp only
    rw [show m.tiers.ml = m.tiers.get .ml from rfl, hml]
    dsimp only
    rw [mean?_ofSamples]
    unfold signals
    by_cases hnone : requestsOf .ml events = []
    · simp [hnone]
    · simp [hnone]
  | lowCacheHitRate =>
    unfold breach? Breached CacheStats.hitRate CacheStats.lookups
    rw [h.cache]
    dsimp only
    rw [Option.isSome_ite]
    apply and_congr_right
    intro hmany
    rw [if_neg (by omega)]

/-! ## Breaches -/

variable {m : Monitor}

theorem kind_breaches_sublist (m : Monitor) (now : Timestamp) :
    ((m.breaches now).map (·.kind)).Sublist AlertKind.all := by
  unfold breaches
  generalize AlertKind.all = kinds
  induction kinds with
  | nil => exact List.Sublist.refl []
  | cons kind kinds ih =>
    cases hbreach : m.breach? kind with
    | none => simpa [hbreach] using ih.cons kind
    | some message => simpa [hbreach] using ih.cons_cons kind

theorem exists_mem_breaches_iff {now : Timestamp} {kind : AlertKind} :
    (∃ a ∈ m.breaches now, a.kind = kind) ↔ (m.breach? kind).isSome = true := by
  unfold breaches
  constructor
  · rintro ⟨a, ha, rfl⟩
    obtain ⟨kind, _, hkind⟩ := List.mem_filterMap.1 ha
    obtain ⟨message, hmessage, rfl⟩ := Option.map_eq_some_iff.1 hkind
    exact Option.isSome_of_eq_some hmessage
  · intro hsome
    obtain ⟨message, hmessage⟩ := Option.isSome_iff_exists.1 hsome
    refine ⟨⟨kind, message, now⟩, ?_, rfl⟩
    exact List.mem_filterMap.2 ⟨kind, kind.mem_all, by rw [hmessage, Option.map_some]⟩

theorem length_breaches_le (m : Monitor) (now : Timestamp) : (m.breaches now).length ≤ 4 := by
  have hlength := (m.kind_breaches_sublist now).length_le
  rw [List.length_map] at hlength
  exact hlength

/-! ## Requests -/

/-- However it was called before, a monitor has its configuration, and its log has `Recorded` some
alerts since the last reset. -/
theorem exists_recorded_serve (config : MonitorConfig) (calls : List Call) :
    ((empty config).serve calls).1.config = config ∧
    ∃ recorded, ((empty config).serve calls).1.Recorded recorded := by
  rw [serve_eq_run]
  constructor
  · rw [config_run]
    rfl
  · have hempty : (empty config).Recorded [] := AlertLog.records_empty _
    have hwatched := hempty.watch (calls.filterMap Call.event?)
    rw [watch_eq_run] at hwatched
    exact ⟨_, hwatched⟩

theorem history_concat (calls : List Call) (now : Timestamp) (r : Request) :
    history (calls ++ [.tell (.request now r)]) = history calls ++ [.request now r] := by
  unfold history
  rw [List.filterMap_append]
  exact sinceReset_concat _ _

/-- What is to hold of a log that was `before` and is `after` a request was recorded, and of the
alerts that are new in it; the request is the last event of the history. -/
structure Heeds (config : MonitorConfig) (events : List Event) (before after : AlertLog)
    (new : List Alert) : Prop where
  /-- The `new` alerts are put behind the older ones. -/
  added : after.alerts = lastN AlertLog.maxHistory (before.alerts ++ new)
  /-- They are about thresholds that are passed (`Breached`). -/
  sound : ∀ a ∈ new, Breached config events a.kind
  /-- No two of them are of one kind. -/
  once : (new.map (·.kind)).Nodup
  /-- Of every threshold that is passed there is an alert near the end, the dedup window and three
  more. -/
  heard : ∀ kind, Breached config events kind →
    ∃ a ∈ after.recent (max config.alertDedupWindow 1 + 3), a.kind = kind

/-- A monitor that is told of the request `r` heeds every threshold that is then passed, and no
other. Nothing else that it is told or asked adds an alert. -/
theorem heeds_request (config : MonitorConfig) (calls : List Call) (now : Timestamp) (r : Request) :
    let m := ((empty config).serve calls).1
    Heeds config (history (calls ++ [.tell (.request now r)])) m.alerts
      (m.answer (.tell (.request now r))).1.alerts (m.newAlerts (.request now r)) ∧
    (∀ event, (m.answer (.tell (.cache event))).1.alerts = m.alerts) ∧
    (∀ size, (m.answer (.tell (.cacheSize size))).1.alerts = m.alerts) ∧
    (m.answer .ask).1.alerts = m.alerts ∧
    (m.answer (.tell .reset)).1.alerts.alerts = [] := by
  intro m
  obtain ⟨hconfig, recorded, hrecorded⟩ := exists_recorded_serve config calls
  have hreflects := (reflects_serve config calls).count now r
  rw [← history_concat] at hreflects
  -- the thresholds are those of the history that ends with the request
  have hbreached : ∀ kind, (∃ a ∈ (m.count r).breaches now, a.kind = kind) ↔
      Breached config (history (calls ++ [.tell (.request now r)])) kind := by
    intro kind
    rw [exists_mem_breaches_iff, hreflects.isSome_breach? kind]
    show Breached m.config _ kind ↔ _
    rw [show m.config = config from hconfig]
  have hrecords : m.alerts.Records config.alertDedupWindow recorded := by
    have h : m.alerts.Records m.config.alertDedupWindow recorded := hrecorded
    rwa [show m.config = config from hconfig] at h
  have hafter : (m.answer (.tell (.request now r))).1.alerts =
      (m.alerts.raiseAll ((m.count r).breaches now)).1 :=
    congrArg Monitor.alerts (m.record_eq_raiseAll now r)
  have hnew : (m.newAlerts (.request now r)).Sublist ((m.count r).breaches now) :=
    AlertLog.raiseAll_sublist _ _
  refine ⟨⟨?_, ?_, ?_, ?_⟩, fun event => rfl, fun size => rfl, rfl, rfl⟩
  · rw [hafter]
    exact hrecords.alerts_raiseAll _
  · intro a ha
    exact (hbreached a.kind).1 ⟨a, hnew.subset ha, rfl⟩
  · have hkinds := (hnew.map (·.kind)).trans ((m.count r).kind_breaches_sublist now)
    exact hkinds.nodup (by decide)
  · intro kind hkind
    obtain ⟨alert, halert, rfl⟩ := (hbreached kind).2 hkind
    have hlength := (m.count r).length_breaches_le now
    obtain ⟨a, ha, hsame⟩ := hrecords.exists_mem_lastN halert
    refine ⟨a, ?_, hsame⟩
    rw [hafter]
    show a ∈ lastN _ _
    rw [(hrecords.raiseAll _).lastN_eq (Nat.le_refl _)]
    exact lastN_subset_of_le (by omega) _ ha

end Monitor

end Dunning
