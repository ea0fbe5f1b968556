import Dunning.Proofs.Monitor.History
import Mathlib.Data.List.Nodup
import Mathlib.Data.List.Perm.Subperm

/-!
# Alerts are not repeated

`AlertLog.raise` holds an alert against the log only, and the log forgets. What is shown here is
about all alerts that were ever recorded since the log was cleared, those that it has dropped
included: none stands within the dedup window of another of its kind, and the log decides as one
would that forgets nothing (`AlertLog.Deduplicates`).

That the log is cut to a thousand alerts (`AlertLog.maxHistory`) does no harm for one of two
reasons. A window of no more than a thousand lies within what is kept. A window of four or more is
never full: five alerts so close together would have five different kinds, and there are four, so
nothing was ever dropped (`Spaced.length_le`).
-/

namespace Dunning

theorem AlertKind.mem_all (kind : AlertKind) : kind ∈ all := by
  cases kind <;> decide

/-! ## The last elements of a list -/

theorem lastN_of_length_le {α : Type} {n : Nat} {xs : List α} (h : xs.length ≤ n) :
    lastN n xs = xs := by
  have hzero : xs.length - n = 0 := by omega
  rw [lastN, hzero, List.drop_zero]

theorem lastN_lastN_of_le {α : Type} {n m : Nat} (h : n ≤ m) (xs : List α) :
    lastN n (lastN m xs) = lastN n xs := by
  unfold lastN
  rw [List.length_drop, List.drop_drop]
  congr 1
  omega

theorem lastN_suffix {α : Type} (n : Nat) (xs : List α) : lastN n xs <:+ xs :=
  List.drop_suffix _ _

/-! ## Alerts at a distance -/

/-- No two alerts of one kind stand `window` places or less apart. -/
def Spaced (window : Nat) (alerts : List Alert) : Prop :=
  ∀ i j a b, i < j → j - i ≤ window → alerts[i]? = some a → alerts[j]? = some b →
    a.kind ≠ b.kind

theorem spaced_nil (window : Nat) : Spaced window [] := by
  intro i j a b _ _ ha _
  simp at ha

/-- An alert may follow if none of its kind is among the last `window` ones. -/
theorem Spaced.concat {window : Nat} {alerts : List Alert} (h : Spaced window alerts) {b : Alert}
    (hb : ∀ a ∈ lastN window alerts, a.kind ≠ b.kind) : Spaced window (alerts ++ [b]) := by
  intro i j a c hlt hnear ha hc
  obtain ⟨hj, _⟩ := List.getElem?_eq_some_iff.1 hc
  rw [List.length_append, List.length_singleton] at hj
  have hi : i < alerts.length := by omega
  rw [List.getElem?_append_left hi] at ha
  by_cases hold : j < alerts.length
  · rw [List.getElem?_append_left hold] at hc
    exact h i j a c hlt hnear ha hc
  · -- `c` is the new alert, and `a` stands at most `window` places before the end
    obtain rfl : j = alerts.length := by omega
    obtain rfl : c = b := by simpa using hc.symm
    apply hb a
    have hplace : (lastN window alerts)[i - (alerts.length - window)]? = some a := by
      rw [lastN, List.getElem?_drop, ← ha]
      congr 1
      omega
    exact List.mem_of_getElem? hplace

theorem Spaced.take {window : Nat} {alerts : List Alert} (h : Spaced window alerts) (n : Nat) :
    Spaced window (alerts.take n) := by
  intro i j a b hlt hnear ha hb
  obtain ⟨hj, _⟩ := List.getElem?_eq_some_iff.1 hb
  rw [List.length_take] at hj
  rw [List.getElem?_take_of_lt (by omega)] at ha hb
  exact h i j a b hlt hnear ha hb

/-- Alerts that all stand within one window have different kinds. -/
theorem Spaced.nodup {window : Nat} {alerts : List Alert} (h : Spaced window alerts)
    (hlength : alerts.length ≤ window + 1) : (alerts.map (·.kind)).Nodup := by
  rw [List.nodup_iff_getElem?_ne_getElem?]
  intro i j hlt hj
  rw [List.length_map] at hj
  have hi : i < alerts.length := by omega
  have hne := h i j alerts[i] alerts[j] hlt (by omega) (List.getElem?_eq_getElem hi)
    (List.getElem?_eq_getElem hj)
  simpa [List.getElem?_map, List.getElem?_eq_getElem hi, List.getElem?_eq_getElem hj] using hne

/-- There are only four kinds, so a window of four or more is never full. -/
theorem Spaced.length_le {window : Nat} {alerts : List Alert} (h : Spaced window alerts)
    (hwindow : 4 ≤ window) : alerts.length ≤ 4 := by
  have hfive : (alerts.take 5).length ≤ window + 1 := by
    rw [List.length_take]
    omega
  have hnodup : ((alerts.take 5).map (·.kind)).Nodup := (h.take 5).nodup hfive
  have hfour : ((alerts.take 5).map (·.kind)).length ≤ AlertKind.all.length :=
    (List.subperm_of_subset hnodup fun kind _ => kind.mem_all).length_le
  rw [List.length_map, List.length_take] at hfour
  have hall : AlertKind.all.length = 4 := rfl
  omega

/-- What the cut to `AlertLog.maxHistory` leaves is enough to look back one window, and three alerts
more. -/
theorem Spaced.lastN_kept {window : Nat} {alerts : List Alert} (h : Spaced window alerts) {n : Nat}
    (hn : n ≤ max window 1 + 3) :
    lastN n (lastN AlertLog.maxHistory alerts) = lastN n alerts := by
  have hmax : AlertLog.maxHistory = 1000 := rfl
  by_cases hwindow : 4 ≤ window
  · have hlength := h.length_le hwindow
    rw [lastN_of_length_le (n := AlertLog.maxHistory) (by omega)]
  · exact lastN_lastN_of_le (by omega) alerts

/-! ## Recording -/

namespace AlertLog

/-- The log after raising alerts one after another, and those of them that it recorded, in order. -/
def raiseAll (log : AlertLog) : List Alert → AlertLog × List Alert
  | [] => (log, [])
  | alert :: alerts =>
    let (after, recorded?) := log.raise alert
    let (last, later) := after.raiseAll alerts
    (last, recorded?.toList ++ later)

@[simp] theorem raiseAll_nil (log : AlertLog) : log.raiseAll [] = (log, []) := rfl

theorem raiseAll_cons (log : AlertLog) (alert : Alert) (alerts : List Alert) :
    log.raiseAll (alert :: alerts) =
      (((log.raise alert).1.raiseAll alerts).1,
        (log.raise alert).2.toList ++ ((log.raise alert).1.raiseAll alerts).2) := rfl

theorem isRecent_iff {log : AlertLog} {kind : AlertKind} :
    log.isRecent kind = true ↔ ∃ a ∈ lastN log.dedupWindow log.alerts, a.kind = kind := by
  unfold isRecent
  rw [List.any_eq_true]
  constructor
  · rintro ⟨a, ha, hkind⟩
    exact ⟨a, ha, of_decide_eq_true hkind⟩
  · rintro ⟨a, ha, hkind⟩
    exact ⟨a, ha, decide_eq_true hkind⟩

/-- The two ways in which `AlertLog.raise` can take an alert. -/
theorem raise_cases (log : AlertLog) (alert : Alert) :
    ((∃ a ∈ lastN log.dedupWindow log.alerts, a.kind = alert.kind) ∧
      log.raise alert = (log, none)) ∨
    ((∀ a ∈ lastN log.dedupWindow log.alerts, a.kind ≠ alert.kind) ∧
      log.raise alert =
        ({ log with alerts := lastN maxHistory (log.alerts ++ [alert]) }, some alert)) := by
  unfold raise
  by_cases hrecent : log.isRecent alert.kind = true
  · left
    rw [if_pos hrecent]
    exact ⟨isRecent_iff.1 hrecent, rfl⟩
  · right
    rw [if_neg hrecent]
    refine ⟨?_, rfl⟩
    intro a ha hkind
    exact hrecent (isRecent_iff.2 ⟨a, ha, hkind⟩)

/-- `recorded` are all alerts that a log with the given dedup window was given since it was
cleared. -/
structure Records (log : AlertLog) (window : Nat) (recorded : List Alert) : Prop where
  looksBack : log.dedupWindow = window
  kept : log.alerts = lastN maxHistory recorded
  spaced : Spaced window recorded

theorem records_empty (window : Nat) : (empty window).Records window [] where
  looksBack := rfl
  kept := rfl
  spaced := spaced_nil window

namespace Records

variable {log : AlertLog} {window : Nat} {recorded : List Alert}

/-- Looking back one window, and three alerts more, the log sees what was recorded. -/
theorem lastN_eq (h : log.Records window recorded) {n : Nat} (hn : n ≤ max window 1 + 3) :
    lastN n log.alerts = lastN n recorded := by
  rw [h.kept, h.spaced.lastN_kept hn]

/-- The ways in which `raise` can take an alert, told by all that was recorded. -/
theorem raise_cases (h : log.Records window recorded) (alert : Alert) :
    ((∃ a ∈ lastN window recorded, a.kind = alert.kind) ∧ log.raise alert = (log, none)) ∨
    ((∀ a ∈ lastN window recorded, a.kind ≠ alert.kind) ∧
      log.raise alert =
        ({ log with alerts := lastN maxHistory (recorded ++ [alert]) }, some alert)) := by
  have hseen : lastN log.dedupWindow log.alerts = lastN window recorded := by
    rw [h.looksBack, h.lastN_eq (by omega)]
  have hcases := log.raise_cases alert
  rw [hseen] at hcases
  rcases hcases with hold | ⟨hnew, hraise⟩
  · exact .inl hold
  · right
    refine ⟨hnew, ?_⟩
    rw [hraise, h.kept, lastN_append_lastN]

theorem raise (h : log.Records window recorded) (alert : Alert) :
    (log.raise alert).1.Records window (recorded ++ (log.raise alert).2.toList) := by
  rcases h.raise_cases alert with ⟨_, hraise⟩ | ⟨hnew, hraise⟩
  · rw [hraise]
    simpa using h
  · rw [hraise]
    show AlertLog.Records { log with alerts := lastN maxHistory (recorded ++ [alert]) } window
      (recorded ++ [alert])
    have hkept (xs : List Alert) : ({ log with alerts := xs } : AlertLog).alerts = xs := rfl
    exact ⟨h.looksBack, hkept _, h.spaced.concat hnew⟩

theorem raiseAll (h : log.Records window recorded) (alerts : List Alert) :
    (log.raiseAll alerts).1.Records window (recorded ++ (log.raiseAll alerts).2) := by
  induction alerts generalizing log recorded with
  | nil => simpa using h
  | cons alert alerts ih =>
    rw [raiseAll_cons, ← List.append_assoc]
    exact ih (h.raise alert)

end Records

/-- What is to hold of `log` with a dedup window, given all alerts that it `recorded` since it was
cleared. -/
structure Deduplicates (log : AlertLog) (window : Nat) (recorded : List Alert) : Prop where
  /-- No two alerts of one kind were recorded within `window`. -/
  spaced : ∀ i j a b, i < j → j - i ≤ window → recorded[i]? = some a → recorded[j]? = some b →
    a.kind ≠ b.kind
  /-- The log holds the last thousand of them, or all if they are fewer. -/
  kept : log.alerts <:+ recorded ∧ log.alerts.length = min recorded.length 1000
  /-- The latest alerts, `log.recent n`, are the last of the log. -/
  recent : ∀ n, log.recent n <:+ log.alerts ∧ (log.recent n).length = min n log.alerts.length
  /-- The next alert is refused if and only if one of its kind is among the last `window` recorded,
  also when the log has dropped some. -/
  decided : ∀ alert, (log.raise alert).2 =
    if (recorded.drop (recorded.length - window)).any (·.kind = alert.kind) then none else some alert
  /-- With a window of four or more every kind is recorded once at most. -/
  once : 4 ≤ window → (recorded.map (·.kind)).Nodup ∧ recorded.length ≤ 4

theorem Records.deduplicates {log : AlertLog} {window : Nat} {recorded : List Alert}
    (h : log.Records window recorded) : log.Deduplicates window recorded where
  spaced := h.spaced
  kept := by
    rw [h.kept, length_lastN, Nat.min_comm]
    exact ⟨lastN_suffix _ _, rfl⟩
  recent := by
    intro n
    exact ⟨lastN_suffix n _, length_lastN n _⟩
  decided := by
    intro alert
    rcases h.raise_cases alert with ⟨⟨a, ha, hkind⟩, hraise⟩ | ⟨hnew, hraise⟩
    · rw [hraise, if_pos]
      exact List.any_eq_true.2 ⟨a, ha, decide_eq_true hkind⟩
    · rw [hraise, if_neg]
      intro hany
      obtain ⟨a, ha, hkind⟩ := List.any_eq_true.1 hany
      exact hnew a ha (of_decide_eq_true hkind)
  once := by
    intro hwindow
    have hlength := h.spaced.length_le hwindow
    exact ⟨h.spaced.nodup (by omega), hlength⟩

end AlertLog

/-! ## The log of a monitor -/

namespace Monitor

/-- The alerts that the monitor `m` raises at a time: one for each kind whose threshold is passed
(`breach?`). -/
def breaches (m : Monitor) (now : Timestamp) : List Alert :=
  AlertKind.all.filterMap fun kind => (m.breach? kind).map fun message => ⟨kind, message, now⟩

/-- The alerts that an event makes the monitor `m` record. -/
def newAlerts (m : Monitor) : Event → List Alert
  | .request now r => (m.alerts.raiseAll ((m.count r).breaches now)).2
  | .cache _ => []
  | .cacheSize _ => []
  | .reset => []

/-- The monitor after a number of events, and the alerts recorded since the last reset, where
`recorded` are those recorded before. -/
def watch (m : Monitor) (recorded : List Alert) : List Event → Monitor × List Alert
  | [] => (m, recorded)
  | e :: events => (m.step e).watch (if e.isReset then [] else recorded ++ m.newAlerts e) events

theorem watch_eq_run (m : Monitor) (recorded : List Alert) (events : List Event) :
    (m.watch recorded events).1 = m.run events := by
  induction events generalizing m recorded with
  | nil => rfl
  | cons e events ih => exact ih _ _

/-- Whether a threshold is passed (`breach?`) has nothing to do with the alerts. -/
@[simp] theorem breach?_withAlerts (m : Monitor) (log : AlertLog) (kind : AlertKind) :
    { m with alerts := log }.breach? kind = m.breach? kind := by
  cases kind <;> rfl

/-- `checkAlerts` raises one alert for each threshold that is passed, in order. -/
theorem checkAlerts_eq_raiseAll (now : Timestamp) (m : Monitor) :
    m.checkAlerts now = { m with alerts := (m.alerts.raiseAll (m.breaches now)).1 } := by
  unfold checkAlerts breaches
  generalize AlertKind.all = kinds
  induction kinds generalizing m with
  | nil => rfl
  | cons kind kinds ih =>
    rw [List.foldl_cons, ih]
    unfold checkKind
    cases hbreach : m.breach? kind with
    | none => simp [hbreach]
    | some message => simp [hbreach, AlertLog.raiseAll_cons]

theorem record_eq_raiseAll (m : Monitor) (now : Timestamp) (r : Request) :
    m.record now r =
      { m.count r with alerts := (m.alerts.raiseAll ((m.count r).breaches now)).1 } :=
  checkAlerts_eq_raiseAll now (m.count r)

/-- The log of the monitor `m` has recorded the given alerts since the last reset. -/
def Recorded (m : Monitor) (recorded : List Alert) : Prop :=
  m.alerts.Records m.config.alertDedupWindow recorded

theorem Recorded.step {m : Monitor} {recorded : List Alert} (h : m.Recorded recorded) (e : Event) :
    (m.step e).Recorded (if e.isReset then [] else recorded ++ m.newAlerts e) := by
  unfold Recorded at h ⊢
  rw [config_step]
  cases e with
  | request now r =>
    show (m.record now r).alerts.Records _ _
    rw [record_eq_raiseAll]
    exact h.raiseAll ((m.count r).breaches now)
  | cache event =>
    show m.alerts.Records _ (recorded ++ [])
    rwa [List.append_nil]
  | cacheSize size =>
    show m.alerts.Records _ (recorded ++ [])
    rwa [List.append_nil]
  | reset => exact AlertLog.records_empty _

theorem Recorded.watch {m : Monitor} {recorded : List Alert} (h : m.Recorded recorded)
    (events : List Event) :
    (m.watch recorded events).1.Recorded (m.watch recorded events).2 := by
  induction events generalizing m recorded with
  | nil => exact h
  | cons e events ih => exact ih (h.step e)

end Monitor

/-- From when a log is cleared until it is cleared again, alerts are not repeated within the dedup
window, whatever is raised. The log of a monitor is no other: from reset to reset it records what
the monitor raises. -/
theorem deduplicates_raiseAll (log : AlertLog) (alerts : List Alert) (config : MonitorConfig)
    (events : List Monitor.Event) :
    let cleared := log.clear.raiseAll alerts
    let watched := (Monitor.empty config).watch [] events
    cleared.1.Deduplicates log.dedupWindow cleared.2 ∧
    watched.1 = (Monitor.empty config).run events ∧
    watched.1.alerts.Deduplicates config.alertDedupWindow watched.2 := by
  intro cleared watched
  have hrun : watched.1 = (Monitor.empty config).run events := Monitor.watch_eq_run _ _ _
  have hcleared : log.clear.Records log.dedupWindow [] := AlertLog.records_empty _
  have hempty : (Monitor.empty config).Recorded [] := AlertLog.records_empty _
  have hwatched : watched.1.Recorded watched.2 := hempty.watch events
  have hconfig : watched.1.config = config := by
    rw [hrun, Monitor.config_run]
    rfl
  unfold Monitor.Recorded at hwatched
  rw [hconfig] at hwatched
  exact ⟨(hcleared.raiseAll alerts).deduplicates, hrun, hwatched.deduplicates⟩

end Dunning
