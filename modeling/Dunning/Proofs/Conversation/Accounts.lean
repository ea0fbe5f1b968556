import Dunning.Proofs.Conversation.Interleaving
import Dunning.Proofs.Conversation.Path
import Dunning.Proofs.Monitor.History
import Mathlib.Algebra.BigOperators.Ring.Finset

/-!
# Every dispatch is counted once

The conversations of a desk share one monitor. A dispatch is recorded there when it ends, and at the
same moment its record is added to the history if the step advanced. `Desk.Accounts` says that the
counters of the monitor and the histories agree with the dispatches that have ended; a moment keeps
it (`Desk.Accounts.pass`), so it holds after any schedule. Together with what the conversations make
of their messages alone, this is all there is to a desk (`Desk.Separate`).
-/

namespace Dunning

/-! ## What the monitor counts -/

/-- Whether the step `s` returned; one that was abandoned did not. -/
def Step.hasReturned (s : Step) : Bool :=
  s.result.success?.isSome

/-- Whether the step `s` returned an error. -/
def Step.hasFailed (s : Step) : Bool :=
  s.result.success? = some false

/-- What `hasReturned` has failed or advanced. -/
theorem countP_hasReturned (done : List (Said × Step)) :
    done.countP (fun p => p.2.hasReturned) =
      done.countP (fun p => p.2.hasFailed) + done.countP fun p => p.2.hasAdvanced := by
  induction done with
  | nil => rfl
  | cons p rest ih =>
    have hp : (if p.2.hasReturned then 1 else 0) =
        (if p.2.hasFailed then 1 else 0) + if p.2.hasAdvanced then 1 else 0 := by
      unfold Step.hasReturned Step.hasFailed Step.hasAdvanced
      rcases p.2.result.success? with _ | _ | _ <;> rfl
    rw [List.countP_cons, List.countP_cons, List.countP_cons, ih, hp]
    omega

namespace Monitor

/-- The counters of the monitor `m` agree with the number of dispatches of each sort that have
ended, which `ended` gives. -/
structure Tallies (m : Monitor) (ended : (Said × Step → Bool) → Nat) : Prop where
  total : m.total = ended fun p => p.2.hasReturned
  errors : m.errors = ended fun p => p.2.hasFailed
  hits : ∀ t, (m.tiers.get t).hits = ended fun p => p.2.hasReturned && p.1.decision.tier = t

theorem tallies_empty (config : MonitorConfig) : (empty config).Tallies fun _ => 0 where
  total := rfl
  errors := rfl
  hits := by
    intro t
    cases t <;> rfl

/-- A step that ends is counted once, under the tier of the decision of `s`. -/
theorem Tallies.recordStep {m : Monitor} {ended : (Said × Step → Bool) → Nat} (h : m.Tallies ended)
    (s : Said) (step : Step) :
    (m.recordStep s step).Tallies fun p => ended p + [(s, step)].countP p := by
  unfold Monitor.recordStep
  cases hsuccess : step.result.success? with
  | none =>
    constructor
    · simp [h.total, Step.hasReturned, hsuccess]
    · simp [h.errors, Step.hasFailed, hsuccess]
    · simp [h.hits, Step.hasReturned, hsuccess]
  | some success =>
    dsimp only
    unfold Monitor.record
    obtain ⟨log, hlog⟩ := checkAlerts_eq s.around.now
      (m.count ⟨s.decision.tier, s.around.elapsedMs, success, s.decision.confidence⟩)
    rw [hlog]
    constructor
    · simp [Monitor.count, h.total, Step.hasReturned, hsuccess]
    · cases success <;> simp [Monitor.count, h.errors, Step.hasFailed, hsuccess]
    · intro t
      by_cases ht : t = s.decision.tier
      · subst ht
        simp [Monitor.count, TierStats.add, h.hits, Step.hasReturned, hsuccess]
      · simp [Monitor.count, PerTier.get_modify_of_ne _ _ ht, h.hits, Ne.symm ht]

end Monitor

/-! ## What the histories show -/

namespace Exchange

/-- A conversation has grown from `before` records by one for each step that advanced. -/
def Grown (before : Nat) (x : Exchange) : Prop :=
  x.conversation.history.length = before + x.done.countP fun p => p.2.hasAdvanced

theorem Grown.pass {before : Nat} {x : Exchange} (h : x.Grown before) (e : Engine)
    (moment : Moment) : (x.pass e moment).Grown before := by
  unfold Grown at h ⊢
  unfold Exchange.pass
  cases moment with
  | begins s => exact h
  | ends =>
    cases x.pending with
    | none => exact h
    | some p =>
      dsimp only
      rw [Conversation.length_history_settle, h, List.countP_append, Nat.add_assoc]
      rfl

end Exchange

/-! ## Accounts -/

namespace Desk

variable {ι : Type} [Fintype ι]

/-- The number of dispatches of a `sort` that have ended, in all conversations. -/
def count (d : Desk ι) (sort : Said × Step → Bool) : Nat :=
  ∑ i, (d.exchanges i).done.countP sort

/-- Each dispatch that has ended in `d` was counted once, and left a record if it advanced. -/
structure Accounts (begun : ι → Conversation) (d : Desk ι) : Prop where
  tallies : d.monitor.Tallies d.count
  grown : ∀ i, (d.exchanges i).Grown (begun i).history.length

theorem accounts_opened (config : MonitorConfig) (begun : ι → Conversation) :
    (opened config begun).Accounts begun where
  tallies := by
    have hcount : (opened config begun).count = fun _ => 0 := by
      funext sort
      simp [count, opened]
    rw [hcount]
    exact Monitor.tallies_empty config
  grown := fun _ => rfl

/-- The requests that did not fail are the records that the histories have gained since `begun`. -/
theorem Accounts.growth {begun : ι → Conversation} {d : Desk ι} (h : d.Accounts begun) :
    (d.monitor.total : Int) - d.monitor.errors =
      ∑ i, (((d.exchanges i).conversation.history.length : Int) - (begun i).history.length) := by
  have hgrown : ∀ i, ((d.exchanges i).conversation.history.length : Int) -
      (begun i).history.length = ((d.exchanges i).done.countP fun p => p.2.hasAdvanced : Nat) := by
    intro i
    have hi : (d.exchanges i).conversation.history.length = _ := h.grown i
    omega
  have htotal : d.monitor.total = d.monitor.errors + d.count fun p => p.2.hasAdvanced := by
    rw [h.tallies.total, h.tallies.errors]
    unfold count
    rw [← Finset.sum_add_distrib]
    exact Finset.sum_congr rfl fun i _ => countP_hasReturned _
  rw [Finset.sum_congr rfl fun i _ => hgrown i, ← Nat.cast_sum, htotal]
  unfold count
  omega

/-- If no dispatch was abandoned, `Monitor.total` counts all that was said in those that ended. -/
theorem Accounts.complete {begun : ι → Conversation} {d : Desk ι} (h : d.Accounts begun)
    (hreturned : ∀ i, ∀ p ∈ (d.exchanges i).done, p.2.hasReturned = true) :
    d.monitor.total = ∑ i, ((d.exchanges i).done.map (·.1)).length ∧
    ∀ t, (d.monitor.tiers.get t).hits =
      ∑ i, ((d.exchanges i).done.map (·.1)).countP fun s => s.decision.tier = t := by
  constructor
  · rw [h.tallies.total]
    apply Finset.sum_congr rfl
    intro i _
    rw [List.countP_eq_length.2 (hreturned i), List.length_map]
  · intro t
    rw [h.tallies.hits]
    apply Finset.sum_congr rfl
    intro i _
    rw [List.countP_map]
    apply List.countP_congr
    intro p hp
    simp [hreturned i p hp]

variable [DecidableEq ι]

/-- What ends at `moment` is counted once. -/
theorem count_pass (e : Engine) (d : Desk ι) (i : ι) (moment : Moment)
    (sort : Said × Step → Bool) :
    (d.pass e (i, moment)).count sort =
      d.count sort + ((d.exchanges i).ended moment).toList.countP sort := by
  have hothers : ∑ j ∈ Finset.univ.erase i,
      ((d.pass e (i, moment)).exchanges j).done.countP sort =
        ∑ j ∈ Finset.univ.erase i, (d.exchanges j).done.countP sort := by
    apply Finset.sum_congr rfl
    intro j hj
    rw [exchanges_pass_of_ne e d (Finset.ne_of_mem_erase hj)]
  have hown : ((d.pass e (i, moment)).exchanges i).done.countP sort =
      (d.exchanges i).done.countP sort + ((d.exchanges i).ended moment).toList.countP sort := by
    rw [exchanges_pass_self, Exchange.done_pass, List.countP_append]
  unfold count
  rw [← Finset.add_sum_erase _ _ (Finset.mem_univ i), hothers, hown,
    ← Finset.add_sum_erase _ (fun j => (d.exchanges j).done.countP sort) (Finset.mem_univ i)]
  omega

theorem Accounts.pass {begun : ι → Conversation} {d : Desk ι} (h : d.Accounts begun) (e : Engine)
    (i : ι) (moment : Moment) : (d.pass e (i, moment)).Accounts begun where
  tallies := by
    rw [funext (d.count_pass e i moment)]
    unfold Desk.pass
    dsimp only
    cases (d.exchanges i).ended moment with
    | none => exact h.tallies
    | some p => exact h.tallies.recordStep p.1 p.2
  grown := by
    intro j
    by_cases hj : j = i
    · subst hj
      rw [exchanges_pass_self]
      exact (h.grown j).pass e moment
    · rw [exchanges_pass_of_ne e d hj]
      exact h.grown j

/-- After any `schedule` each dispatch that has ended was counted once. -/
theorem Accounts.run {begun : ι → Conversation} {d : Desk ι} (h : d.Accounts begun) (e : Engine)
    (schedule : List (ι × Moment)) : (d.run e schedule).Accounts begun := by
  unfold Desk.run
  induction schedule generalizing d with
  | nil => exact h
  | cons event rest ih => exact ih (h.pass e event.1 event.2)

/-! ## A whole schedule -/

/-- What is to hold of the desk `d` after all that was `said` in its conversations, in whatever
order the dispatches took their turns. -/
structure Separate (e : Engine) (begun : ι → Conversation) (said : ι → List Said) (d : Desk ι) :
    Prop where
  /-- All that was said was dispatched, and nothing is under way. -/
  dispatched : ∀ i, (d.exchanges i).done.map (·.1) = said i ∧ (d.exchanges i).pending = none
  /-- Each conversation and each of its steps is as if it had been alone (`Engine.converse`), with
  whatever monitor. -/
  alone : ∀ i m, (d.exchanges i).conversation = (e.converse m (begun i) (said i)).1 ∧
    (d.exchanges i).done.map (·.2) = (e.converse m (begun i) (said i)).2
  /-- With a steady executor it is also as if the same had been said alone at other times
  (`Conversation.Alike`). -/
  anytime : e.executor.IsSteady → ∀ i m said', List.Forall₂ Said.SameWords (said i) said' →
    (d.exchanges i).conversation.Alike (e.converse m (begun i) said').1 ∧
    (d.exchanges i).done.map (·.2.result) = (e.converse m (begun i) said').2.map (·.result)
  /-- The monitor has counted the dispatches that returned, those that failed, and those of each
  tier (`Monitor.Tallies`). -/
  tallies : d.monitor.Tallies d.count
  /-- If none was abandoned, it has counted all that was said. -/
  complete : (∀ i, ∀ p ∈ (d.exchanges i).done, p.2.hasReturned = true) →
    d.monitor.total = ∑ i, (said i).length ∧
    ∀ t, (d.monitor.tiers.get t).hits = ∑ i, (said i).countP fun s => s.decision.tier = t
  /-- The requests that did not fail are the records that the histories have gained. -/
  growth : (d.monitor.total : Int) - d.monitor.errors =
    ∑ i, (((d.exchanges i).conversation.history.length : Int) - (begun i).history.length)

/-- Conversations that share a dispatcher do not interfere, and every message is counted once, after
any `schedule` whose moments are those of what was `said`. -/
theorem separate_run (e : Engine) (config : MonitorConfig) (begun : ι → Conversation)
    (said : ι → List Said) (schedule : List (ι × Moment))
    (h : ∀ i, momentsOf i schedule = (said i).flatMap Said.moments) :
    ((opened config begun).run e schedule).Separate e begun said := by
  have hexchange := fun i => exchanges_run_opened e config begun (h i)
  have haccounts : ((opened config begun).run e schedule).Accounts begun :=
    (accounts_opened config begun).run e schedule
  have hsaid : ∀ i, (((opened config begun).run e schedule).exchanges i).done.map (·.1) =
      said i := by
    intro i
    rw [hexchange i (.empty config)]
    exact List.map_fst_zip (e.length_converse ..).ge
  have hsteps : ∀ i m, (((opened config begun).run e schedule).exchanges i).done.map (·.2) =
      (e.converse m (begun i) (said i)).2 := by
    intro i m
    rw [hexchange i m]
    exact List.map_snd_zip (e.length_converse ..).le
  constructor
  case dispatched =>
    intro i
    refine ⟨hsaid i, ?_⟩
    rw [hexchange i (.empty config)]
  case alone =>
    intro i m
    refine ⟨?_, hsteps i m⟩
    rw [hexchange i m]
  case anytime =>
    intro hsteady i m said' hwords
    obtain ⟨halike, hresults⟩ :=
      Engine.alike_converse hsteady (Conversation.Alike.refl (begun i)) m m hwords
    constructor
    · rw [hexchange i m]
      exact halike
    · rw [← hresults, ← hsteps i m, List.map_map]
      rfl
  case tallies => exact haccounts.tallies
  case complete =>
    intro hreturned
    simpa only [hsaid] using haccounts.complete hreturned
  case growth => exact haccounts.growth

/-- Two conversations whose dispatches overlap: one moves on, the other has no way to go. -/
theorem separate_run_overlapping :
    let e : Engine := {
      store := ((FlowTable.start "greeted").addTransition "start" ⟨none, none, "greeted"⟩).store
      executor := fun _ _ => ⟨[], .delta []⟩
      conditions := .empty }
    let around : Circumstances := { now := ⟨0, 0, 0⟩, token := "" }
    let hola : Said := ⟨around, "hola", ⟨.rule, some "saludo", 1⟩⟩
    let adios : Said := ⟨around, "adiós", ⟨.ml, none, 1⟩⟩
    let begun (i : Bool) : Conversation := .start around (bif i then "start" else "greeted")
    let said (i : Bool) : List Said := [bif i then hola else adios]
    let d := (opened {} begun).run e
      [(true, .begins hola), (false, .begins adios), (true, .ends), (false, .ends)]
    e.executor.IsSteady ∧ d.Separate e begun said ∧
      (d.exchanges true).conversation.state = "greeted" ∧
      (d.exchanges false).conversation.state = "greeted" ∧
      d.monitor.total = 2 ∧ d.monitor.errors = 1 ∧ (d.monitor.tiers.get .ml).hits = 1 := by
  intro e around hola adios begun said d
  have hseparate : d.Separate e begun said := by
    apply separate_run
    intro i
    cases i <;> rfl
  refine ⟨fun _ _ _ => rfl, hseparate, rfl, rfl, ?_, ?_, ?_⟩
  · rw [hseparate.tallies.total]
    rfl
  · rw [hseparate.tallies.errors]
    rfl
  · rw [hseparate.tallies.hits]
    rfl

end Desk

end Dunning
