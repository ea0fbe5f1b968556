import Dunning.Proofs.Engine.Selection

/-!
# What a step calls and how it ends

A step is a selection and at most one call of the executor. `TakesFirstOpen` gathers what that means
for the outcome, for the calls and for the errors of a step, and `takesFirstOpen_step` shows it of
every step. That the list of calls is complete is part of it: no other answer of the executor has
any influence on the step.
-/

namespace Dunning.Engine

theorem step_of_error {e : Engine} {state : String} {ctx : Context} {error : FlowError}
    (h : e.select state ctx = .error error) (around : Circumstances) :
    e.step around state ctx = ⟨[], [], .failed error⟩ := by
  simp [step, h]

theorem step_of_chooses {e : Engine} {state : String} {ctx : Context} {i : Nat}
    {t : Transition} (h : e.Chooses state ctx i t) (around : Circumstances) :
    e.step around state ctx = e.take around state ctx ⟨i, t⟩ := by
  simp [step, select_eq_ok_iff.2 h]

theorem step_of_no_action {e : Engine} {state : String} {ctx : Context} {i : Nat}
    {t : Transition} (h : e.Chooses state ctx i t) (haction : t.action = none)
    (around : Circumstances) :
    e.step around state ctx = ⟨[], [], .advanced ⟨state, t.target, i, none⟩⟩ := by
  simp [step_of_chooses h, take, haction]

/-- What a step that carries out the action `a` of `t` makes of the executor's reply. -/
def resultOf (state : String) (i : Nat) (t : Transition) (a : FlowAction) : Reply → StepResult
  | .delta changes => .advanced ⟨state, t.target, i, some ⟨a.name, a.type, changes⟩⟩
  | .failed cause => .failed (.action state a.name cause)
  | .abandoned => .abandoned

/-- What an engine calls for the action `a` in a context. -/
def callOf (a : FlowAction) (ctx : Context) : ActionCall :=
  ⟨a.type, a.payload, ctx⟩

theorem step_of_action {e : Engine} {state : String} {ctx : Context} {i : Nat}
    {t : Transition} {a : FlowAction} (h : e.Chooses state ctx i t)
    (haction : t.action = some a) (around : Circumstances) :
    e.step around state ctx =
      ⟨[callOf a ctx], (e.executor around (callOf a ctx)).effects,
        resultOf state i t a (e.executor around (callOf a ctx)).reply⟩ := by
  rw [step_of_chooses h]
  simp only [take, haction, callOf]
  cases (e.executor around ⟨a.type, a.payload, ctx⟩).reply <;> rfl

/-- The three ways in which `Engine.step` can go. -/
theorem step_cases (e : Engine) (around : Circumstances) (state : String) (ctx : Context) :
    (∃ error, e.select state ctx = .error error ∧
      e.step around state ctx = ⟨[], [], .failed error⟩) ∨
    (∃ i t, e.Chooses state ctx i t ∧ t.action = none ∧
      e.step around state ctx = ⟨[], [], .advanced ⟨state, t.target, i, none⟩⟩) ∨
    (∃ i t a, e.Chooses state ctx i t ∧ t.action = some a ∧
      e.step around state ctx =
        ⟨[callOf a ctx], (e.executor around (callOf a ctx)).effects,
          resultOf state i t a (e.executor around (callOf a ctx)).reply⟩) := by
  cases hselect : e.select state ctx with
  | error error => exact .inl ⟨error, rfl, step_of_error hselect around⟩
  | ok selection =>
    obtain ⟨i, t⟩ := selection
    have chooses : e.Chooses state ctx i t := select_eq_ok_iff.1 hselect
    cases haction : t.action with
    | none => exact .inr (.inl ⟨i, t, chooses, haction, step_of_no_action chooses haction around⟩)
    | some a => exact .inr (.inr ⟨i, t, a, chooses, haction, step_of_action chooses haction around⟩)

/-! ## The executor's part

The executor has no part in what is chosen.
-/

theorem select_withExecutor (e : Engine) (x : Executor) (state : String) (ctx : Context) :
    { e with executor := x }.select state ctx = e.select state ctx := rfl

theorem Chooses.withExecutor {e : Engine} {state : String} {ctx : Context} {i : Nat}
    {t : Transition} (h : e.Chooses state ctx i t) (x : Executor) :
    { e with executor := x }.Chooses state ctx i t :=
  ⟨h.source, h.first, h.target⟩

/-- A step ends in the same way wherever the executor's reply to the one call (`callOf`) is the
same. -/
theorem result_step_congr {e : Engine} {around around' : Circumstances} {state : String}
    {ctx : Context}
    (h : ∀ i t a, e.Chooses state ctx i t → t.action = some a →
      (e.executor around (callOf a ctx)).reply = (e.executor around' (callOf a ctx)).reply) :
    (e.step around state ctx).result = (e.step around' state ctx).result := by
  rcases e.step_cases around state ctx with ⟨error, hselect, hstep⟩ |
    ⟨i, t, chooses, haction, hstep⟩ | ⟨i, t, a, chooses, haction, hstep⟩
  · rw [hstep, step_of_error hselect]
  · rw [hstep, step_of_no_action chooses haction]
  · rw [hstep, step_of_action chooses haction, h i t a chooses haction]

/-- A step is not abandoned by an executor that never abandons a call. -/
theorem result_step_ne_abandoned {e : Engine} {around : Circumstances}
    (h : ∀ call, (e.executor around call).reply ≠ .abandoned) (state : String) (ctx : Context) :
    (e.step around state ctx).result ≠ .abandoned := by
  rcases e.step_cases around state ctx with ⟨error, _, hstep⟩ | ⟨i, t, _, _, hstep⟩ |
    ⟨i, t, a, _, _, hstep⟩
  · simp [hstep]
  · simp [hstep]
  · rw [hstep]
    have hreply := h (callOf a ctx)
    cases hcase : (e.executor around (callOf a ctx)).reply with
    | delta changes => simp [resultOf]
    | failed cause => simp [resultOf]
    | abandoned => exact absurd hcase hreply

theorem resultOf_eq_failed {state : String} {i : Nat} {t : Transition} {a : FlowAction}
    {reply : Reply} {error : FlowError} (h : resultOf state i t a reply = .failed error) :
    error.isAction = true := by
  cases reply with
  | delta changes => cases h
  | failed cause =>
    obtain rfl := StepResult.failed.inj h
    rfl
  | abandoned => cases h

theorem resultOf_eq_advanced {state : String} {i : Nat} {t : Transition} {a : FlowAction}
    {reply : Reply} {o : Outcome} (h : resultOf state i t a reply = .advanced o) :
    ∃ changes, reply = .delta changes ∧
      o = ⟨state, t.target, i, some ⟨a.name, a.type, changes⟩⟩ := by
  cases reply with
  | delta changes => exact ⟨changes, rfl, (StepResult.advanced.inj h).symm⟩
  | failed cause => cases h
  | abandoned => cases h

/-- What a step that advanced has done: it took the chosen transition, and reports of its action in
`o`, if it has one, what the executor replied to the one call. -/
theorem advanced_cases {e : Engine} {around : Circumstances} {state : String} {ctx : Context}
    {o : Outcome} (h : (e.step around state ctx).result = .advanced o) :
    ∃ i t, e.Chooses state ctx i t ∧
      ((t.action = none ∧ o = ⟨state, t.target, i, none⟩) ∨
       (∃ a changes, t.action = some a ∧ o = ⟨state, t.target, i, some ⟨a.name, a.type, changes⟩⟩ ∧
        (e.step around state ctx).calls = [callOf a ctx] ∧
        (e.executor around (callOf a ctx)).reply = .delta changes)) := by
  rcases e.step_cases around state ctx with ⟨error, _, hstep⟩ | ⟨i, t, chooses, haction, hstep⟩ |
    ⟨i, t, a, chooses, haction, hstep⟩
  · simp [hstep] at h
  · rw [hstep] at h
    obtain rfl := StepResult.advanced.inj h
    exact ⟨i, t, chooses, .inl ⟨haction, rfl⟩⟩
  · rw [hstep] at h ⊢
    obtain ⟨changes, hreply, rfl⟩ := resultOf_eq_advanced h
    exact ⟨i, t, chooses, .inr ⟨a, changes, haction, rfl, rfl, hreply⟩⟩

/-- A step that advanced took the transition at the position `o.index`, and reports its target and
its action. -/
theorem exists_chooses_of_advanced {e : Engine} {around : Circumstances} {state : String}
    {ctx : Context} {o : Outcome} (h : (e.step around state ctx).result = .advanced o) :
    ∃ t, e.Chooses state ctx o.index t ∧ o.target = t.target ∧
      o.action.map (·.name) = t.action.map (·.name) ∧
      o.action.map (·.type) = t.action.map (·.type) := by
  obtain ⟨i, t, chooses, ⟨haction, rfl⟩ | ⟨a, changes, haction, rfl, _⟩⟩ := advanced_cases h
  · exact ⟨t, chooses, rfl, by simp [haction], by simp [haction]⟩
  · exact ⟨t, chooses, rfl, by simp [haction], by simp [haction]⟩

/-- Where an action that failed for `cause` comes from: it is the chosen transition's, and the
executor failed on the one call. -/
theorem failed_action_cases {e : Engine} {around : Circumstances} {state : String} {ctx : Context}
    {source name : String} {cause : ActionError}
    (h : (e.step around state ctx).result = .failed (.action source name cause)) :
    ∃ i t a, e.Chooses state ctx i t ∧ t.action = some a ∧ source = state ∧ name = a.name ∧
      (e.executor around (callOf a ctx)).reply = .failed cause := by
  rcases e.step_cases around state ctx with ⟨error, hselect, hstep⟩ | ⟨i, t, _, _, hstep⟩ |
    ⟨i, t, a, chooses, haction, hstep⟩
  · rw [hstep] at h
    obtain rfl := StepResult.failed.inj h
    cases isAction_of_select_eq_error hselect
  · simp [hstep] at h
  · rw [hstep] at h
    cases hreply : (e.executor around (callOf a ctx)).reply with
    | delta changes => simp [hreply, resultOf] at h
    | failed error =>
      simp only [hreply, resultOf, StepResult.failed.injEq, FlowError.action.injEq] at h
      obtain ⟨rfl, rfl, rfl⟩ := h
      exact ⟨i, t, a, chooses, haction, rfl, rfl, hreply⟩
    | abandoned => simp [hreply, resultOf] at h

/-- What is to hold of the step `s` from `state` in `ctx`, whatever the store answers. -/
structure TakesFirstOpen (e : Engine) (around : Circumstances) (state : String) (ctx : Context)
    (s : Step) : Prop where
  /-- A step advances by the first open transition only, between states that exist. -/
  advanced : ∀ o, s.result = .advanced o →
    o.source = state ∧ ∃ t, e.Chooses state ctx o.index t ∧ o.target = t.target
  /-- The action of that transition is called once (`callOf`), with its payload and the context as
  it is. -/
  called : ∀ i t a, e.Chooses state ctx i t → t.action = some a →
    s.calls = [callOf a ctx]
  /-- In every other case nothing is called. -/
  uncalled : (∀ i t a, e.Chooses state ctx i t → t.action ≠ some a) → s.calls = []
  /-- The executor has done what was called, and no more. -/
  effects : s.effects = s.calls.flatMap fun call => (e.executor around call).effects
  /-- No answer of the executor matters but those to `s.calls`. -/
  complete : ∀ x : Executor, (∀ call ∈ s.calls, x around call = e.executor around call) →
    { e with executor := x }.step around state ctx = s
  /-- Without an action the step advances. -/
  plain : ∀ i t, e.Chooses state ctx i t → t.action = none →
    s.result = .advanced ⟨state, t.target, i, none⟩
  /-- With an action the step ends as the executor replies (`resultOf`); a failure names state and
  action. -/
  replied : ∀ i t a, e.Chooses state ctx i t → t.action = some a →
    s.result = resultOf state i t a (e.executor around (callOf a ctx)).reply
  /-- `Engine.select` gives the same transition, whatever the executor `x` is. -/
  selected : ∀ x i t, { e with executor := x }.select state ctx = .ok ⟨i, t⟩ ↔
    e.Chooses state ctx i t
  /-- `Engine.select` gives the same error, whatever the executor is, unless it is the action's. -/
  rejected : ∀ x error, { e with executor := x }.select state ctx = .error error ↔
    s.result = .failed error ∧ error.isAction = false

/-- `Engine.step` takes the first open transition and calls its action at most once. -/
theorem takesFirstOpen_step (e : Engine) (around : Circumstances) (state : String)
    (ctx : Context) : e.TakesFirstOpen around state ctx (e.step around state ctx) where
  advanced := by
    intro o ho
    obtain ⟨i, t, chooses, ⟨_, rfl⟩ | ⟨a, changes, _, rfl, _⟩⟩ := advanced_cases ho
    · exact ⟨rfl, t, chooses, rfl⟩
    · exact ⟨rfl, t, chooses, rfl⟩
  called := by
    intro i t a chooses haction
    rw [step_of_action chooses haction]
  uncalled := by
    intro hnone
    rcases e.step_cases around state ctx with ⟨error, _, hstep⟩ | ⟨i, t, _, _, hstep⟩ |
      ⟨i, t, a, chooses, haction, _⟩
    · rw [hstep]
    · rw [hstep]
    · exact absurd haction (hnone i t a chooses)
  effects := by
    rcases e.step_cases around state ctx with ⟨error, _, hstep⟩ | ⟨i, t, _, _, hstep⟩ |
      ⟨i, t, a, _, _, hstep⟩ <;>
    simp [hstep]
  complete := by
    intro x hx
    rcases e.step_cases around state ctx with ⟨error, hselect, hstep⟩ |
      ⟨i, t, chooses, haction, hstep⟩ | ⟨i, t, a, chooses, haction, hstep⟩
    · rw [hstep]
      exact step_of_error ((e.select_withExecutor x state ctx).trans hselect) around
    · rw [hstep]
      exact step_of_no_action (chooses.withExecutor x) haction around
    · -- the one call was listed, so the other executor replies to it in the same way
      rw [hstep] at hx ⊢
      have hreply : x around (callOf a ctx) = e.executor around (callOf a ctx) :=
        hx _ List.mem_cons_self
      rw [step_of_action (chooses.withExecutor x) haction]
      simp only [hreply]
  plain := by
    intro i t chooses haction
    rw [step_of_no_action chooses haction]
  replied := by
    intro i t a chooses haction
    rw [step_of_action chooses haction]
  selected := by
    intro x i t
    rw [e.select_withExecutor x, select_eq_ok_iff]
  rejected := by
    intro x error
    constructor
    · intro hselect
      rw [e.select_withExecutor x] at hselect
      rw [step_of_error hselect]
      exact ⟨rfl, isAction_of_select_eq_error hselect⟩
    · rintro ⟨hresult, hkind⟩
      rcases e.step_cases around state ctx with ⟨error', hselect, hstep⟩ | ⟨i, t, _, _, hstep⟩ |
        ⟨i, t, a, _, _, hstep⟩
      · rw [hstep] at hresult
        obtain rfl := StepResult.failed.inj hresult
        exact hselect
      · simp [hstep] at hresult
      · rw [hstep] at hresult
        simp [resultOf_eq_failed hresult] at hkind

end Dunning.Engine
