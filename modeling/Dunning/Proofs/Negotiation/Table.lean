import Dunning.Agent
import Dunning.Negotiation
import Dunning.Proofs.Action.Footprint
import Dunning.Proofs.Agent.Start

/-!
# The table of the negotiation

The negotiation flow with names in place of numbers, and what can be read off it: where a transition
without a condition leads on, and which fields the actions can change. Nothing here depends on the
data that queries are answered from.
-/

namespace Dunning.Negotiation

/-- The negotiation flow with names in place of numbers. -/
def table : FlowTable where
  initialState := "start"
  states := states.map (·.name)
  edges :=
    [("start", ⟨none, some greeting, "validar_documento"⟩),
      ("validar_documento", ⟨some documentGiven, some lookup, "informar_deuda"⟩),
      ("validar_documento", ⟨none, some askDocument, "validar_documento"⟩),
      ("informar_deuda", ⟨some frustrated, some propose, "gestionar_objecion"⟩),
      ("informar_deuda", ⟨some customerFound, some offerPlans, "proponer_planes_pago"⟩),
      ("informar_deuda", ⟨none, some askDocument, "validar_documento"⟩),
      ("proponer_planes_pago", ⟨some frustratedAgain, some escalate, "escalamiento"⟩),
      ("proponer_planes_pago", ⟨some frustrated, some propose, "gestionar_objecion"⟩),
      ("proponer_planes_pago", ⟨some planChosen, some remind, "generar_acuerdo"⟩),
      ("proponer_planes_pago", ⟨none, some recallPlans, "proponer_planes_pago"⟩),
      ("gestionar_objecion", ⟨some planChosen, some remind, "generar_acuerdo"⟩),
      ("gestionar_objecion", ⟨some frustrated, some escalate, "escalamiento"⟩),
      ("gestionar_objecion", ⟨none, some offerPlans, "proponer_planes_pago"⟩),
      ("generar_acuerdo", ⟨none, some confirm, "fin"⟩),
      ("escalamiento", ⟨none, some farewell, "fin"⟩)]

theorem resolve_flow : flow.resolve = .ok table := by rfl

theorem closed_table : table.Closed :=
  FlowDefinition.closed_of_resolve resolve_flow

/-- The agent of the negotiation, with the answers that `query` gives. -/
def agent (settings : Settings) (query : QueryBackend) : Agent :=
  Agent.assemble settings table (some query)

theorem unknownConditions_agent (settings : Settings) (query : QueryBackend) :
    (agent settings query).unknownConditions = [] := by
  have hall : ∀ e ∈ table.expressions, Agent.standardConditions.isKnown e = true := by
    decide +kernel
  apply List.filter_eq_nil_iff.2
  intro e he
  have hknown : (agent settings query).conditions.isKnown e = true := hall e he
  simpa using hknown

theorem unknownActions_agent (settings : Settings) (query : QueryBackend) :
    (agent settings query).unknownActions = [] := by
  have hall : ∀ type ∈ table.actionTypes, ActionKind.ofText type ∈ ActionKind.builtins := by
    decide +kernel
  apply List.filter_eq_nil_iff.2
  intro type htype
  have hhas : (agent settings query).registry.has type = true :=
    Registry.has_standard_iff.2 (hall type htype)
  simpa using hhas

/-- Where the negotiation flow and some tables are found, `Agent.start` gives this agent, in
production too. -/
theorem start_eq_agent {files : Files} {settings : Settings} {path : String} {tables : QueryTables}
    (hflow : FlowDefinition.load files settings.engine.flowPath = .ok flow)
    (hinitial : settings.engine.initialState = "start")
    (hpath : settings.engine.queryDataPath = some path)
    (htables : QueryTables.load files path = .ok tables) :
    Agent.start files settings = .ok (agent settings tables.query) := by
  have hbackend : Agent.backend files settings = .ok (some tables.query) := by
    simp [Agent.backend, hpath, htables, Except.mapError]
  apply Agent.start_eq_ok_iff.2
  refine ⟨⟨flow, table, some tables.query, hflow, resolve_flow, ?_, hbackend, rfl⟩, ?_⟩
  · rw [hinitial]
    rfl
  · intro _
    exact ⟨unknownConditions_agent settings tables.query, unknownActions_agent settings tables.query⟩

/-! ## Where it goes on -/

/-- What is chosen (`Engine.Chooses`) is a transition of the table that is open. -/
theorem edge_of_chooses {settings : Settings} {query : QueryBackend} {state : String} {ctx : Context}
    {i : Nat} {t : Transition} (h : (agent settings query).engine.Chooses state ctx i t) :
    (state, t) ∈ table.edges ∧ t.IsOpen Agent.standardConditions ctx := by
  obtain ⟨ts, hlisting, first⟩ := h.first
  obtain rfl := Except.ok.inj hlisting
  exact ⟨FlowTable.mem_transitionsFrom_iff.1 (List.mem_of_getElem? first.listed), first.isOpen⟩

/-- Every state but `fin` has a transition without a condition. -/
theorem exists_default {state : String} (h : state ∈ table.states) (hfin : state ≠ "fin") :
    ∃ t ∈ table.transitionsFrom state, t.condition = none := by
  have hall : ∀ s ∈ table.states, s ≠ "fin" →
      (table.transitionsFrom s).any (·.condition.isNone) = true := by decide
  obtain ⟨t, ht, hnone⟩ := List.any_eq_true.1 (hall state h hfin)
  exact ⟨t, ht, Option.isNone_iff_eq_none.1 hnone⟩

/-- Nothing leaves `fin`. -/
theorem transitionsFrom_fin : table.transitionsFrom "fin" = [] := by rfl

/-- Every transition has an action, and it is one of `actions`. -/
theorem exists_action {edge : String × Transition} (h : edge ∈ table.edges) :
    ∃ a ∈ actions, edge.2.action = some a := by
  simp only [table, List.mem_cons, List.not_mem_nil, or_false] at h
  rcases h with rfl | rfl | rfl | rfl | rfl | rfl | rfl | rfl | rfl | rfl | rfl | rfl | rfl | rfl |
    rfl <;> exact ⟨_, by simp [actions], rfl⟩

/-! ## What its actions change -/

/-- The kind of the action `a` of the flow. -/
def kindOf (a : FlowAction) : ActionKind :=
  .ofText a.type

theorem agent_executor (settings : Settings) (query : QueryBackend) :
    (agent settings query).engine.executor =
      ((Registry.standard (some query)).withLimit settings.engine.actionTimeoutSecs).execute := by
  simp only [agent, Agent.engine, Agent.assemble]

/-- What an action changes is its answer, once it is waited for. -/
theorem reply_eq_delta_iff (settings : Settings) {query : QueryBackend} {around : Circumstances}
    {ctx : Context} {a : FlowAction} {changes : Fields Json} :
    ((agent settings query).engine.executor around (Engine.callOf a ctx)).reply = .delta changes ↔
      around.patience.all (0 < ·) = true ∧
      Registry.standardAnswer (some query) around a.payload ctx (kindOf a) = .ok changes := by
  rw [agent_executor, Registry.reply_standard_eq_delta_iff]
  rfl

/-- No action has `saldo` in its footprint. -/
theorem saldo_not_mem_footprint : ∀ a ∈ actions, "saldo" ∉ Action.footprint a.payload (kindOf a) := by
  decide +kernel

/-- Only the lookup has `Action.foundKey` in its footprint. -/
theorem flag_not_mem_footprint : ∀ a ∈ actions, kindOf a ≠ .runQuery →
    Action.foundKey ∉ Action.footprint a.payload (kindOf a) := by
  decide +kernel

/-- Only replies have `Action.replyKey` in their footprint. -/
theorem reply_not_mem_footprint : ∀ a ∈ actions, kindOf a ≠ .sendTemplate →
    Action.replyKey ∉ Action.footprint a.payload (kindOf a) := by
  decide +kernel

end Dunning.Negotiation
