import Dunning.Flow.Store
import Dunning.Proofs.Except

/-!
# What resolving a flow gives

A table that was resolved is closed (`FlowTable.Closed`): its first state and every state that a
transition leaves or leads to are states of the table. Numbers may be declared more than once; a
number means the record that is declared last under it (`Means`), and the table lists the names of
all states.
-/

namespace Dunning

/-! ## What a number means -/

/-- The number `id` means the `record` that is declared last under it. -/
def Means {α : Type} (number : α → UInt32) (table : List α) (id : UInt32) (record : α) : Prop :=
  number record = id ∧
    ∃ before after, table = before ++ record :: after ∧ ∀ later ∈ after, number later ≠ id

section
variable {α : Type} {number : α → UInt32} {table : List α} {id : UInt32} {record : α}

theorem findRev?_eq_some_iff :
    table.findRev? (number · = id) = some record ↔ Means number table id record := by
  rw [List.findRev?_eq_find?_reverse, List.find?_eq_some_iff_append, Means, decide_eq_true_iff]
  apply and_congr_right'
  constructor
  · rintro ⟨after, before, htable, hafter⟩
    refine ⟨before.reverse, after.reverse, ?_, ?_⟩
    · rw [← List.reverse_reverse table, htable]
      simp
    · intro later hlater
      simpa using hafter later (List.mem_reverse.1 hlater)
  · rintro ⟨before, after, rfl, hafter⟩
    refine ⟨after.reverse, before.reverse, by simp, ?_⟩
    intro later hlater
    simpa using hafter later (List.mem_reverse.1 hlater)

theorem Means.mem (h : Means number table id record) : record ∈ table := by
  obtain ⟨_, before, after, rfl, _⟩ := h
  exact List.mem_append_right before List.mem_cons_self

/-- A number has a meaning when it is declared at all. -/
theorem exists_means_iff : (∃ record, Means number table id record) ↔ id ∈ table.map number := by
  simp only [← findRev?_eq_some_iff, ← Option.isSome_iff_exists]
  rw [List.findRev?_eq_find?_reverse]
  simp

end

/-! ## Closed tables -/

/-- Nothing in the table `t` leads out of it. -/
structure FlowTable.Closed (t : FlowTable) : Prop where
  initial : t.initialState ∈ t.states
  source : ∀ edge ∈ t.edges, edge.1 ∈ t.states
  target : ∀ edge ∈ t.edges, edge.2.target ∈ t.states

namespace FlowTable

theorem hasState_iff {t : FlowTable} {name : String} : t.hasState name = true ↔ name ∈ t.states := by
  simp [hasState]

theorem mem_transitionsFrom_iff {t : FlowTable} {name : String} {transition : Transition} :
    transition ∈ t.transitionsFrom name ↔ (name, transition) ∈ t.edges := by
  simp [transitionsFrom]

end FlowTable

namespace FlowDefinition

theorem stateName?_eq_some_iff {d : FlowDefinition} {id : UInt32} {name : String} :
    d.stateName? id = some name ↔ ∃ s, Means FlowState.id d.states id s ∧ s.name = name := by
  rw [stateName?, Option.map_eq_some_iff]
  simp only [← findRev?_eq_some_iff]

theorem mem_names_of_stateName? {d : FlowDefinition} {id : UInt32} {name : String}
    (h : d.stateName? id = some name) : name ∈ d.states.map (·.name) := by
  obtain ⟨s, hs, rfl⟩ := stateName?_eq_some_iff.1 h
  exact List.mem_map_of_mem hs.mem

theorem resolveState_eq_ok_iff {d : FlowDefinition} {id : UInt32} {name : String} :
    d.resolveState id = .ok name ↔ d.stateName? id = some name := by
  unfold resolveState
  cases d.stateName? id <;> simp

theorem resolveCondition_eq_ok_iff {d : FlowDefinition} {id : UInt32} {condition : FlowCondition} :
    d.resolveCondition id = .ok condition ↔
      Means FlowCondition.id d.conditions id condition := by
  rw [← findRev?_eq_some_iff, resolveCondition]
  cases d.conditions.findRev? (·.id = id) <;> simp

theorem resolveAction_eq_ok_iff {d : FlowDefinition} {id : UInt32} {action : FlowAction} :
    d.resolveAction id = .ok action ↔ Means FlowAction.id d.actions id action := by
  rw [← findRev?_eq_some_iff, resolveAction]
  cases d.actions.findRev? (·.id = id) <;> simp

theorem checkInitial_eq_ok_iff {d : FlowDefinition} :
    d.checkInitial = .ok () ↔ d.initialState ∈ d.states.map (·.name) := by
  unfold checkInitial
  split <;> simp_all

/-- The transition `t` as it is stored in `d`, and the same with everything that it refers to in
place. -/
structure Joins (d : FlowDefinition) (t : FlowTransition) (joined : Transition) : Prop where
  target : ∃ s, Means FlowState.id d.states t.target s ∧ s.name = joined.target
  condition : Option.Rel (Means FlowCondition.id d.conditions) t.condition joined.condition
  action : Option.Rel (Means FlowAction.id d.actions) t.action joined.action

theorem resolveTransition_eq_ok_iff {d : FlowDefinition} {t : FlowTransition}
    {edge : String × Transition} :
    d.resolveTransition t = .ok edge ↔
      d.stateName? t.source = some edge.1 ∧ d.Joins t edge.2 := by
  unfold resolveTransition
  simp only [bind_eq_ok_iff, pure_eq_ok, Except.ok.injEq, resolveState_eq_ok_iff,
    optionMapM_eq_ok_iff, resolveCondition_eq_ok_iff, resolveAction_eq_ok_iff]
  constructor
  · rintro ⟨source, hsource, target, htarget, condition, hcondition, action, haction, rfl⟩
    exact ⟨hsource, stateName?_eq_some_iff.1 htarget, hcondition, haction⟩
  · rintro ⟨hsource, htarget, hcondition, haction⟩
    exact ⟨_, hsource, _, stateName?_eq_some_iff.2 htarget, _, hcondition, _, haction, rfl⟩

theorem resolve_eq_ok_iff {d : FlowDefinition} {t : FlowTable} :
    d.resolve = .ok t ↔ d.initialState ∈ d.states.map (·.name) ∧
      ∃ edges, d.transitions.mapM d.resolveTransition = .ok edges ∧
        t = ⟨d.initialState, d.states.map (·.name), edges⟩ := by
  unfold resolve
  simp only [bind_eq_ok_iff, pure_eq_ok, Except.ok.injEq, ← checkInitial_eq_ok_iff]
  constructor
  · rintro ⟨_, hinitial, edges, hedges, rfl⟩
    exact ⟨hinitial, edges, hedges, rfl⟩
  · rintro ⟨hinitial, edges, hedges, rfl⟩
    exact ⟨(), hinitial, edges, hedges, rfl⟩

/-- What `FlowDefinition.resolve` gives is closed, whether it was checked before or not. -/
theorem closed_of_resolve {d : FlowDefinition} {t : FlowTable} (h : d.resolve = .ok t) :
    t.Closed := by
  obtain ⟨hinitial, edges, hedges, rfl⟩ := resolve_eq_ok_iff.1 h
  refine ⟨hinitial, ?_, ?_⟩
  · intro edge hedge
    obtain ⟨transition, _, hok⟩ := exists_of_mapM_eq_ok hedges hedge
    exact mem_names_of_stateName? (resolveTransition_eq_ok_iff.1 hok).1
  · intro edge hedge
    obtain ⟨transition, _, hok⟩ := exists_of_mapM_eq_ok hedges hedge
    obtain ⟨s, hs, hname⟩ := (resolveTransition_eq_ok_iff.1 hok).2.target
    exact hname ▸ List.mem_map_of_mem hs.mem

end FlowDefinition

end Dunning
