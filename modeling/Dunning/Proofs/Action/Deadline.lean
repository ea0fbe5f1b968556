import Dunning.Proofs.Action.Race
import Dunning.Proofs.Conversation.Atomicity

/-!
# What a deadline leaves behind

What `Registry.execute` reports of a call is what the call comes to on the clock
(`Attempt.Settles`), whatever is taken first in a second and however many seconds go by afterwards.
When the time limit or the patience of the caller runs out before the handler's wait is over, the
part of the handler after its wait does not take place, then or later, and no conversation changes
but for what it heard (`settles_execute`).
-/

namespace Dunning

namespace Attempt

variable {a : Attempt} {x : Race}

/-- What is reported of the attempt `a`: what its `work` comes to under its limit and patience. -/
def observe (a : Attempt) : Execution :=
  a.work.observe a.action a.limit a.patience

/-- What an attempt that is reported as `ex` comes to on the clock: `x` ranges over all that can be
reached (`Attempt.Reachable`). -/
structure Settles (a : Attempt) (ex : Execution) : Prop where
  /-- A handler whose wait of `a.work.seconds` is over first is carried out, and its end is
  reported. -/
  finished : a.work.seconds < a.limit → (∀ c ∈ a.patience, a.work.seconds < c) →
    ex = ⟨a.work.opening ++ a.work.closing, .ofEnding a.action a.work.ending⟩
  /-- When `a.limit` is reached first, that is reported, and nothing after the wait takes place. -/
  expired : a.limit < a.work.seconds → (∀ c ∈ a.patience, a.limit < c) →
    ex = ⟨a.work.opening, .failed (.timeout a.action a.limit)⟩
  /-- When the caller's patience `c` is over first, nothing is reported, and nothing after the wait
  takes place. -/
  left : ∀ c ∈ a.patience, c < a.work.seconds → c < a.limit → ex = ⟨a.work.opening, .abandoned⟩
  /-- At no moment has anything else taken place than `ex.effects`. -/
  within : ∀ x, a.Reachable x → x.effects <+: ex.effects
  /-- Before any of the instants the caller knows nothing. -/
  unknown : ∀ x, a.Reachable x → x.clock < a.work.seconds → x.clock < a.limit →
    (∀ c ∈ a.patience, x.clock < c) → x.reply = none
  /-- After one of them `ex` holds, however far the clock has gone on. -/
  seen : ∀ x, a.Reachable x →
    (a.work.seconds < x.clock ∨ a.limit < x.clock ∨ ∃ c ∈ a.patience, c < x.clock) →
    x.effects = ex.effects ∧ x.reply = some ex.reply
  /-- What the caller learns is `ex.reply`, and all of `ex.effects` have taken place by then. -/
  learned : ∀ x reply, a.Reachable x → x.reply = some reply →
    reply = ex.reply ∧ x.effects = ex.effects
  /-- The clock does go on. -/
  passes : ∀ seconds, ∃ x, a.Reachable x ∧ x.clock = seconds

/-! ## The report of an outcome -/

theorem all_lt_iff {patience : Option Nat} {n : Nat} :
    patience.all (n < ·) = true ↔ ∀ c ∈ patience, n < c := by
  cases patience <;> simp

theorem Outcome.observe_eq {instant : Nat} {task : TaskState} {ex : Execution}
    (ha : a.Apart) (h : a.Outcome instant task ex) : a.observe = ex := by
  have hstarted : (decide (0 < a.limit) && a.patience.all (0 < ·)) = true := by
    rw [Bool.and_eq_true, decide_eq_true_eq, all_lt_iff]
    exact ⟨ha.limit_pos, ha.patience_pos⟩
  unfold observe Work.observe
  simp only [hstarted, if_true]
  cases h with
  | finished limit patience =>
    have hends : (decide (a.work.seconds < a.limit) &&
        a.patience.all (a.work.seconds < ·)) = true := by
      rw [Bool.and_eq_true, decide_eq_true_eq, all_lt_iff]
      exact ⟨limit, patience⟩
    rw [if_pos hends]
    congr 1
    cases a.work.ending with
    | crashed => rfl
    | answered answer => cases answer <;> rfl
  | expired seconds patience =>
    have hlate : ¬ a.work.seconds < a.limit := Nat.not_lt.2 (Nat.le_of_lt seconds)
    have hwaits : a.patience.all (a.limit ≤ ·) = true := by
      rw [Option.all_eq_true]
      exact fun c hc => decide_eq_true (Nat.le_of_lt (patience c hc))
    simp [hlate, hwaits]
  | left hc seconds limit =>
    have hpatience : a.patience = some instant := hc
    have hlate : ¬ a.work.seconds < instant := Nat.not_lt.2 (Nat.le_of_lt seconds)
    have hgone : ¬ a.limit ≤ instant := Nat.not_le.2 limit
    simp [hpatience, hlate, hgone]

theorem Outcome.reached {instant : Nat} {task : TaskState} {ex : Execution}
    (h : a.Outcome instant task ex) :
    instant = a.work.seconds ∨ instant = a.limit ∨ ∃ c ∈ a.patience, instant = c := by
  cases h with
  | finished limit patience => exact .inl rfl
  | expired seconds patience => exact .inr (.inl rfl)
  | left hc seconds limit => exact .inr (.inr ⟨_, hc, rfl⟩)

/-- If the wait is not over first, the outcome leaves the task `stopped`. -/
theorem Apart.exists_stopped (ha : a.Apart)
    (h : a.limit < a.work.seconds ∨ ∃ c ∈ a.patience, c < a.work.seconds) :
    ∃ instant ex, a.Outcome instant .stopped ex := by
  obtain ⟨instant, task, ex, outcome⟩ := ha.exists_outcome
  cases outcome with
  | finished limit patience =>
    rcases h with h | ⟨c, hc, h⟩
    · exact absurd h (Nat.lt_asymm limit)
    · exact absurd h (Nat.lt_asymm (patience c hc))
  | expired seconds patience => exact ⟨_, _, .expired seconds patience⟩
  | left hc seconds limit => exact ⟨_, _, .left hc seconds limit⟩

theorem Outcome.ne_delta {instant : Nat} {ex : Execution} (h : a.Outcome instant .stopped ex)
    (changes : Fields Json) : ex.reply ≠ .delta changes := by
  cases h <;> simp

/-- A call that has passed one of the instants has its outcome, by its `Phase`. -/
theorem Phase.exists_outcome (h : a.Phase x)
    (hpast : a.work.seconds < x.clock ∨ a.limit < x.clock ∨ ∃ c ∈ a.patience, c < x.clock) :
    ∃ instant task ex, a.Outcome instant task ex ∧
      x.effects = ex.effects ∧ x.reply = some ex.reply := by
  cases h with
  | queued => simp [Race.called] at hpast
  | waiting seconds limit patience =>
    rcases hpast with hpast | hpast | ⟨c, hc, hpast⟩
    · exact absurd hpast (Nat.not_lt.2 seconds)
    · exact absurd hpast (Nat.not_lt.2 limit)
    · exact absurd hpast (Nat.not_lt.2 (patience c hc))
  | ended limit patience =>
    rcases hpast with hpast | hpast | ⟨c, hc, hpast⟩
    · exact absurd hpast (Nat.lt_irrefl _)
    · exact absurd hpast (Nat.lt_asymm limit)
    · exact absurd hpast (Nat.lt_asymm (patience c hc))
  | settled outcome clock => exact ⟨_, _, _, outcome, rfl, rfl⟩

theorem Phase.exists_outcome_of_reply {reply : Reply} (h : a.Phase x) (hreply : x.reply = some reply) :
    ∃ instant task ex, a.Outcome instant task ex ∧ instant ≤ x.clock ∧
      x.effects = ex.effects ∧ reply = ex.reply := by
  cases h with
  | queued => cases hreply
  | waiting seconds limit patience => cases hreply
  | ended limit patience => cases hreply
  | settled outcome clock => exact ⟨_, _, _, outcome, clock, rfl, (Option.some.inj hreply).symm⟩

theorem Outcome.opening_within {instant : Nat} {task : TaskState} {ex : Execution}
    (h : a.Outcome instant task ex) : a.work.opening <+: ex.effects := by
  cases h with
  | finished limit patience => exact List.prefix_append _ _
  | expired seconds patience => exact List.prefix_rfl
  | left hc seconds limit => exact List.prefix_rfl

theorem Phase.effects_within (ha : a.Apart) (h : a.Phase x) : x.effects <+: a.observe.effects := by
  cases h with
  | queued => exact ⟨_, List.nil_append _⟩
  | waiting seconds limit patience =>
    obtain ⟨instant, task, ex, outcome⟩ := ha.exists_outcome
    rw [outcome.observe_eq ha]
    exact outcome.opening_within
  | ended limit patience =>
    simp only [(Outcome.finished limit patience).observe_eq ha, List.prefix_rfl]
  | settled outcome clock => simp only [outcome.observe_eq ha, List.prefix_rfl]

theorem settles_observe (ha : a.Apart) : a.Settles a.observe where
  finished limit patience := (Outcome.finished limit patience).observe_eq ha
  expired seconds patience := (Outcome.expired seconds patience).observe_eq ha
  left c hc seconds limit := (Outcome.left hc seconds limit).observe_eq ha
  within x hx := (phase_of_reachable ha hx).effects_within ha
  unknown := by
    intro x hx hseconds hlimit hpatience
    by_contra hne
    obtain ⟨reply, hreply⟩ := Option.ne_none_iff_exists'.1 hne
    obtain ⟨instant, task, ex, outcome, hclock, -, -⟩ :=
      (phase_of_reachable ha hx).exists_outcome_of_reply hreply
    rcases outcome.reached with rfl | rfl | ⟨c, hc, rfl⟩
    · exact absurd hseconds (Nat.not_lt.2 hclock)
    · exact absurd hlimit (Nat.not_lt.2 hclock)
    · exact absurd (hpatience _ hc) (Nat.not_lt.2 hclock)
  seen := by
    intro x hx hpast
    obtain ⟨instant, task, ex, outcome, heffects, hreply⟩ :=
      (phase_of_reachable ha hx).exists_outcome hpast
    rw [outcome.observe_eq ha]
    exact ⟨heffects, hreply⟩
  learned := by
    intro x reply hx hreply
    obtain ⟨instant, task, ex, outcome, -, heffects, hlearned⟩ :=
      (phase_of_reachable ha hx).exists_outcome_of_reply hreply
    rw [outcome.observe_eq ha]
    exact ⟨hlearned, heffects⟩
  passes := a.exists_reachable_clock

end Attempt

namespace Registry

/-- The attempt of `handler` at a call: its own limit counts before that of the registry. -/
def attempt (r : Registry) (handler : Handler) (around : Circumstances) (call : ActionCall) :
    Attempt where
  work := handler.run around call.payload call.context
  action := (ActionKind.ofText call.type).name
  limit := handler.limit.getD r.defaultLimit
  patience := around.patience

variable {r : Registry} {handler : Handler} {around : Circumstances} {call : ActionCall}

theorem execute_eq_observe (h : r.get? (.ofText call.type) = some handler) :
    r.execute around call = (r.attempt handler around call).observe := by
  rw [execute_of_get? around call h, Attempt.observe, attempt]

/-- `Registry.execute` reports of a call what the call comes to on the clock. A conversation whose
message made a call that was stopped is left as it was but for what it heard. -/
theorem settles_execute (h : r.get? (.ofText call.type) = some handler)
    (hapart : (r.attempt handler around call).Apart) :
    (r.attempt handler around call).Settles (r.execute around call) ∧
    ∀ (e : Engine) (m : Monitor) (c : Conversation) (message : String) (d : Decision),
      e.executor = r.execute → (e.dispatch m around c message d).step.calls = [call] →
      ((r.attempt handler around call).limit < (r.attempt handler around call).work.seconds ∨
        ∃ p ∈ around.patience, p < (r.attempt handler around call).work.seconds) →
      (e.dispatch m around c message d).conversation = c.hear message d := by
  have hsettles := Attempt.settles_observe hapart
  rw [← execute_eq_observe h] at hsettles
  refine ⟨hsettles, ?_⟩
  intro e m c message d hexecutor hcalls hstopped
  apply e.dispatch_of_no_delta m around c message d hcalls
  obtain ⟨instant, ex, outcome⟩ := hapart.exists_stopped hstopped
  rw [hexecutor, execute_eq_observe h, outcome.observe_eq hapart]
  exact outcome.ne_delta

/-- The handler `slow` would work for five seconds and has a limit of one, while its caller would
wait for three: the message that called it is heard, and nothing more comes of it. -/
theorem settles_execute_after_limit :
    let slow : Handler :=
      { limit := some 1, run := fun _ _ _ => ⟨["asked"], 5, ["noted"], .answered (.ok [])⟩ }
    let r := Registry.register {} (.custom "lento") slow
    let around : Circumstances := { now := ⟨0, 0, 0⟩, token := "", patience := some 3 }
    let d : Decision := ⟨.rule, some "saludo", 1⟩
    let c := Conversation.start around "start"
    let t : Transition := ⟨none, some ⟨1, "avisar", " lento ", .null⟩, "greeted"⟩
    let e : Engine := {
      store := { stateExists := fun _ => .ok true, transitions := fun _ => .ok [t] }
      executor := r.execute
      conditions := .empty }
    let call : ActionCall := ⟨" lento ", .null, c.heard "hola" d⟩
    r.get? (.ofText call.type) = some slow ∧ (r.attempt slow around call).Apart ∧
      (r.attempt slow around call).Settles (r.execute around call) ∧
      r.execute around call = ⟨["asked"], .failed (.timeout "lento" 1)⟩ ∧
      (e.dispatch (.empty {}) around c "hola" d).step.calls = [call] ∧
      (e.dispatch (.empty {}) around c "hola" d).conversation = c.hear "hola" d := by
  intro slow r around d c t e call
  have hkind : ActionKind.ofText " lento " = .custom "lento" := by decide +kernel
  have hget : r.get? (.ofText call.type) = some slow := by
    rw [hkind, get?_register, if_pos rfl]
  have hapart : (r.attempt slow around call).Apart := by
    constructor <;> simp [attempt, slow, around]
  obtain ⟨hsettles, hkept⟩ := settles_execute hget hapart
  have hlate : (r.attempt slow around call).limit < (r.attempt slow around call).work.seconds := by
    show 1 < 5
    decide
  have hpatience : ∀ p ∈ around.patience, (r.attempt slow around call).limit < p := by
    intro p hp
    obtain rfl : 3 = p := Option.some.inj hp
    show 1 < 3
    decide
  have hname : (r.attempt slow around call).action = "lento" := by
    rw [attempt, hkind]
    rfl
  have hexpired := hsettles.expired hlate hpatience
  rw [hname] at hexpired
  have chooses : e.Chooses c.state (c.heard "hola" d) 0 t :=
    ⟨rfl, ⟨[t], rfl, rfl, .inl rfl, fun j hj => absurd hj (Nat.not_lt_zero j)⟩, rfl⟩
  have hcalls : (e.dispatch (.empty {}) around c "hola" d).step.calls = [call] := by
    rw [e.dispatch_step, Engine.step_of_action chooses rfl]
    rfl
  have hexecutor : e.executor = r.execute := by simp only [e]
  have hconversation := hkept e (.empty {}) c "hola" d hexecutor hcalls (.inl hlate)
  exact ⟨hget, hapart, hsettles, hexpired, hcalls, hconversation⟩

end Registry

end Dunning
