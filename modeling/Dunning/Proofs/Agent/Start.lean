import Dunning.Agent
import Dunning.Proofs.Action.Standard
import Dunning.Proofs.Conversation.Dispatches
import Dunning.Proofs.Flow.Listing

/-!
# What the start of an agent promises

The start looks at names: the condition expressions and the action types that the flow lists
(`FlowTable.expressions`, `FlowTable.actionTypes`). A conversation looks at transitions: it
evaluates a condition where it stands and calls an action as it is written. Both meet in the table,
for every transition of every state is one of its edges, and in the way the names are read, which is
the same at the start and in a conversation. So an agent that was started in staging or in
production never comes upon a name that it does not know (`Agent.Vetted`).
-/

namespace Dunning

/-! ## The names that a flow lists -/

namespace FlowTable

variable {t : FlowTable} {state : String} {transition : Transition}

/-- The condition of a transition is listed in `FlowTable.expressions`, whatever state the
transition leaves. -/
theorem mem_expressions {c : FlowCondition} (htransition : transition ∈ t.transitionsFrom state)
    (hc : transition.condition = some c) : c.expression ∈ t.expressions := by
  rw [expressions, mem_ascending, List.mem_filterMap]
  refine ⟨(state, transition), mem_transitionsFrom_iff.1 htransition, ?_⟩
  show transition.condition.map (·.expression) = some c.expression
  rw [hc, Option.map_some]

/-- The type of a transition's action is listed in `FlowTable.actionTypes`, whatever state the
transition leaves. -/
theorem mem_actionTypes {a : FlowAction} (htransition : transition ∈ t.transitionsFrom state)
    (ha : transition.action = some a) : a.type ∈ t.actionTypes := by
  rw [actionTypes, mem_ascending, List.mem_filterMap]
  refine ⟨(state, transition), mem_transitionsFrom_iff.1 htransition, ?_⟩
  show transition.action.map (·.type) = some a.type
  rw [ha, Option.map_some]

end FlowTable

/-- The same settings for an agent that is being developed. -/
def Settings.inDevelopment (s : Settings) : Settings :=
  { s with stage := .development }

/-- In staging and in production an agent has to know the names that its flow uses. -/
theorem Stage.isStrict_iff {stage : Stage} :
    stage.isStrict = true ↔ stage = .staging ∨ stage = .production := by
  cases stage <;> decide

namespace Agent

variable {files : Files} {settings : Settings} {a : Agent}

/-! ## When an agent starts -/

/-- The agent `a` is put together from what `files` hold, and its flow begins where `settings` say.
-/
def Assembles (files : Files) (settings : Settings) (a : Agent) : Prop :=
  ∃ definition table query,
    FlowDefinition.load files settings.engine.flowPath = .ok definition ∧
    definition.resolve = .ok table ∧
    definition.initialState = settings.engine.initialState ∧
    backend files settings = .ok query ∧
    a = assemble settings table query

theorem check_eq_ok_iff : a.check = .ok () ↔
    (a.settings.stage.isStrict = true → a.unknownConditions = [] ∧ a.unknownActions = []) := by
  unfold check
  by_cases hstrict : a.settings.stage.isStrict
  · by_cases hconditions : a.unknownConditions = []
    · by_cases hactions : a.unknownActions = [] <;> simp [hstrict, hconditions, hactions]
    · simp [hstrict, hconditions]
  · simp [hstrict]

/-- `Agent.start` succeeds when the agent can be put together (`Assembles`) and nothing that its
stage refuses is in the way. -/
theorem start_eq_ok_iff : start files settings = .ok a ↔
    Assembles files settings a ∧
      (settings.stage.isStrict = true → a.unknownConditions = [] ∧ a.unknownActions = []) := by
  unfold start
  simp only [bind_eq_ok_iff, mapError_eq_ok_iff]
  constructor
  · rintro ⟨definition, hload, table, hresolve, hrest⟩
    by_cases hinitial : definition.initialState = settings.engine.initialState
    · rw [if_neg (not_not.2 hinitial)] at hrest
      simp only [bind_eq_ok_iff, pure_eq_ok, Except.ok.injEq] at hrest
      obtain ⟨query, hbackend, _, hcheck, rfl⟩ := hrest
      exact ⟨⟨definition, table, query, hload, hresolve, hinitial, hbackend, rfl⟩,
        check_eq_ok_iff.1 hcheck⟩
    · rw [if_pos hinitial] at hrest
      cases hrest
  · rintro ⟨⟨definition, table, query, hload, hresolve, hinitial, hbackend, rfl⟩, hnames⟩
    refine ⟨definition, hload, table, hresolve, ?_⟩
    rw [if_neg (not_not.2 hinitial)]
    simp only [bind_eq_ok_iff, pure_eq_ok, Except.ok.injEq]
    exact ⟨query, hbackend, (), check_eq_ok_iff.2 hnames, rfl⟩

/-- Nothing that an agent is put together from depends on `Settings.stage`. -/
theorem Assembles.inDevelopment (h : Assembles files settings a) :
    Assembles files settings.inDevelopment { a with settings := settings.inDevelopment } := by
  obtain ⟨definition, table, query, hload, hresolve, hinitial, hbackend, rfl⟩ := h
  exact ⟨definition, table, query, hload, hresolve, hinitial, hbackend, rfl⟩

/-! ## Unknown names in a conversation -/

/-- A backend is read from tables, so it does not speak of an `unknownAction`. -/
theorem query_ne_unknownAction {backend : Option QueryBackend}
    (h : Agent.backend files settings = .ok backend) :
    ∀ query ∈ backend, ∀ name params type, query name params ≠ .error (.unknownAction type) := by
  intro query hquery name params type
  unfold Agent.backend at h
  split at h
  · obtain rfl := Except.ok.inj h
    cases hquery
  · simp only [bind_eq_ok_iff, pure_eq_ok, Except.ok.injEq] at h
    obtain ⟨tables, _, rfl⟩ := h
    obtain rfl := Option.some.inj hquery
    exact tables.query_ne_unknownAction name params type

/-- An agent without unknown names, at work. -/
structure Vetted (a : Agent) : Prop where
  /-- Conversations start in the state that `EngineSettings.initialState` names. -/
  initial : a.table.initialState = a.settings.engine.initialState
  /-- Every condition that the engine can come upon is known. -/
  known : ∀ state transitions, a.engine.store.transitions state = .ok transitions →
    ∀ t ∈ transitions, ∀ c, t.condition = some c → a.engine.conditions.isKnown c.expression = true
  /-- Whatever messages are dispatched in whatever conversation, no step fails with an
  `unknownAction`. -/
  carried : ∀ m c said, ∀ d ∈ a.engine.dispatchAll m c said, ∀ state name type,
    d.step.result ≠ .failed (.action state name (.unknownAction type))

theorem isKnown_of_unknownConditions (h : a.unknownConditions = []) {state : String}
    {t : Transition} (ht : t ∈ a.table.transitionsFrom state) {c : FlowCondition}
    (hc : t.condition = some c) : a.conditions.isKnown c.expression = true := by
  have hlisted := List.filter_eq_nil_iff.1 h c.expression (FlowTable.mem_expressions ht hc)
  simpa using hlisted

theorem has_of_unknownActions (h : a.unknownActions = []) {state : String} {t : Transition}
    (ht : t ∈ a.table.transitionsFrom state) {action : FlowAction} (hc : t.action = some action) :
    a.registry.has action.type = true := by
  have hlisted := List.filter_eq_nil_iff.1 h action.type (FlowTable.mem_actionTypes ht hc)
  simpa using hlisted

theorem vetted_of_assembles (h : Assembles files settings a) (hconditions : a.unknownConditions = [])
    (hactions : a.unknownActions = []) : a.Vetted where
  initial := by
    obtain ⟨definition, table, query, _, hresolve, hinitial, _, rfl⟩ := h
    obtain ⟨_, edges, _, rfl⟩ := FlowDefinition.resolve_eq_ok_iff.1 hresolve
    exact hinitial
  known := by
    intro state transitions hlisting t ht c hc
    obtain rfl := Except.ok.inj hlisting
    exact isKnown_of_unknownConditions hconditions ht hc
  carried := by
    intro m c said d hd state name type hfailed
    obtain ⟨around, source, ctx, hstep⟩ := Engine.step_of_mem_dispatchAll hd
    rw [hstep] at hfailed
    obtain ⟨i, t, action, chooses, haction, -, -, hreply⟩ := Engine.failed_action_cases hfailed
    -- the action is one of an edge of the table, and so the registry has it
    obtain ⟨ts, hlisting, first⟩ := chooses.first
    obtain rfl := Except.ok.inj hlisting
    have hhas := has_of_unknownActions hactions (List.mem_of_getElem? first.listed) haction
    obtain ⟨definition, table, query, _, _, _, hbackend, rfl⟩ := h
    exact Registry.reply_standard_ne_unknownAction (query_ne_unknownAction hbackend) _ around
      (Engine.callOf action ctx) (Registry.has_standard_iff.1 hhas) type hreply

/-- What is to hold of the start of an agent, whatever the files hold and the settings say. -/
structure StartsSoundly (files : Files) (settings : Settings) : Prop where
  /-- An agent starts when its parts can be put together; only `staging` and `production` ask for
  known names. -/
  starts : ∀ a, start files settings = .ok a ↔ Assembles files settings a ∧
    (settings.stage = .staging ∨ settings.stage = .production →
      a.unknownConditions = [] ∧ a.unknownActions = [])
  /-- In development nothing is asked but that the parts can be put together. -/
  lenient : ∀ a, start files settings.inDevelopment = .ok a ↔
    Assembles files settings.inDevelopment a
  /-- An agent that was started in one of these stages does not come upon unknown names. -/
  vetted : settings.stage = .staging ∨ settings.stage = .production →
    ∀ a, start files settings = .ok a → a.Vetted
  /-- The same agent starts in development, with the same table, registry and conditions. -/
  relaxed : settings.stage = .staging ∨ settings.stage = .production →
    ∀ a, start files settings = .ok a →
      start files settings.inDevelopment = .ok { a with settings := settings.inDevelopment }

/-- Every agent is started soundly. -/
theorem startsSoundly (files : Files) (settings : Settings) : StartsSoundly files settings where
  starts := by
    intro a
    rw [← Stage.isStrict_iff]
    exact start_eq_ok_iff
  lenient := by
    intro a
    rw [start_eq_ok_iff]
    simp [Settings.inDevelopment, Stage.isStrict]
  vetted := by
    intro hstrict a hstart
    obtain ⟨hassembles, hnames⟩ := start_eq_ok_iff.1 hstart
    obtain ⟨hconditions, hactions⟩ := hnames (Stage.isStrict_iff.2 hstrict)
    exact vetted_of_assembles hassembles hconditions hactions
  relaxed := by
    intro hstrict a hstart
    rw [start_eq_ok_iff]
    refine ⟨(start_eq_ok_iff.1 hstart).1.inDevelopment, ?_⟩
    simp [Settings.inDevelopment, Stage.isStrict]

/-- In production an agent starts with a flow that writes blanks around the type of an action. -/
theorem startsSoundly_of_blanks :
    let text := "states: [\x7bid: 1, name: start\x7d]\n"
      ++ "actions: [\x7bid: 1, name: a, type: ' send_template '\x7d]\n"
      ++ "transitions: [\x7bid: 1, state_id: 1, action_id: 1, next_state_id: 1\x7d]"
    let files : Files := fun _ => .ok text
    let settings : Settings := { stage := .production }
    ∃ a, start files settings = .ok a ∧ a.Vetted ∧
      start files settings.inDevelopment = .ok { a with settings := settings.inDevelopment } := by
  intro text files settings
  obtain ⟨a, hstart⟩ : ∃ a, start files settings = .ok a :=
    exists_eq_ok_iff.2 (by decide +kernel)
  have hsound := startsSoundly files settings
  have hstrict : settings.stage = .staging ∨ settings.stage = .production := Or.inr rfl
  exact ⟨a, hstart, hsound.vetted hstrict a hstart, hsound.relaxed hstrict a hstart⟩

end Agent

end Dunning
