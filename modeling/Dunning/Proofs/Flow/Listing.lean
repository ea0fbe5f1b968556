import Dunning.Proofs.Fields
import Dunning.Proofs.Flow.Resolution
import Mathlib.Algebra.BigOperators.Group.List.Lemmas
import Mathlib.Algebra.GroupWithZero.Nat

/-!
# What a resolved table lists

A `FlowTable` answers by the names of states, while a flow is written with numbers; several numbers
may have one name, and a number may be declared again. The transitions of a state are nevertheless
those of the file, one by one and in the order in which they stand, for this order decides which one
is tried first (`forall₂_transitionsFrom`). The names of conditions and actions that a table lists
are read off the same transitions.
-/

namespace Dunning

/-! ## Texts in ascending order -/

theorem mem_ascending {texts : List String} {text : String} :
    text ∈ ascending texts ↔ text ∈ texts := by
  rw [ascending, Fields.mem_names_ofList]
  simp

theorem pairwise_ascending (texts : List String) : (ascending texts).Pairwise (· < ·) := by
  have hempty : Fields.Ascending ([] : Fields Unit) := List.Pairwise.nil
  exact Fields.ascending_merge hempty _

/-! ## Numbers and records -/

section
variable {α : Type} {number : α → UInt32} {table : List α} {id : UInt32} {record : α}

/-- A number `Means` one record at most. -/
theorem Means.unique {other : α} (h : Means number table id record)
    (h' : Means number table id other) : record = other :=
  Option.some.inj ((findRev?_eq_some_iff.2 h).symm.trans (findRev?_eq_some_iff.2 h'))

/-- What is in place for `id?` is what the number means. -/
theorem eq_some_iff_of_rel {id? : Option UInt32} {record? : Option α}
    (h : Option.Rel (Means number table) id? record?) :
    record? = some record ↔ ∃ id ∈ id?, Means number table id record := by
  cases h with
  | none => simp
  | @some id other hother =>
    simp only [Option.mem_def, Option.some.injEq, exists_eq_left']
    constructor
    · rintro rfl
      exact hother
    · exact hother.unique

end

namespace FlowDefinition

/-- The transition `t` leaves the state `name` that its number means. -/
def Leaves (d : FlowDefinition) (t : FlowTransition) (name : String) : Prop :=
  ∃ s, Means FlowState.id d.states t.source s ∧ s.name = name

instance (d : FlowDefinition) (t : FlowTransition) (name : String) : Decidable (d.Leaves t name) :=
  decidable_of_iff (d.stateName? t.source = some name) stateName?_eq_some_iff

variable {d : FlowDefinition} {t : FlowTable}

/-- The edges of a table are the transitions of the file, one by one. -/
theorem forall₂_edges (h : d.resolve = .ok t) :
    List.Forall₂ (fun x edge => d.Leaves x edge.1 ∧ d.Joins x edge.2) d.transitions t.edges := by
  obtain ⟨_, edges, hedges, rfl⟩ := resolve_eq_ok_iff.1 h
  refine (mapM_eq_ok_iff.1 hedges).imp ?_
  intro x edge hedge
  rwa [resolveTransition_eq_ok_iff, stateName?_eq_some_iff] at hedge

/-- The transitions of the state `name` are those of the file that leave it, in the order of the
file. -/
theorem forall₂_transitionsFrom (h : d.resolve = .ok t) (name : String) :
    List.Forall₂ d.Joins (d.transitions.filter (d.Leaves · name)) (t.transitionsFrom name) := by
  have hfiltered : List.Forall₂ (fun x edge => d.Leaves x edge.1 ∧ d.Joins x edge.2)
      (d.transitions.filter (d.Leaves · name)) (t.edges.filter (·.1 = name)) := by
    refine List.rel_filter ?_ (forall₂_edges h)
    intro x edge hedge
    obtain ⟨⟨s, hs, hname⟩, _⟩ := hedge
    -- the state that `x` leaves is the one that the edge names
    have hleaves : d.Leaves x name ↔ edge.1 = name :=
      ⟨fun ⟨s', hs', hname'⟩ => hname ▸ hs.unique hs' ▸ hname', fun he => ⟨s, hs, hname.trans he⟩⟩
    simpa using hleaves
  rw [FlowTable.transitionsFrom, List.forall₂_map_right_iff]
  exact hfiltered.imp fun _ _ hboth => hboth.2

/-- What holds of some edge holds of some transition of the file with everything in place (`Joins`).
-/
theorem exists_edge_iff (h : d.resolve = .ok t) {P : Transition → Prop}
    {Q : FlowTransition → Prop} (hPQ : ∀ {x joined}, d.Joins x joined → (P joined ↔ Q x)) :
    (∃ edge ∈ t.edges, P edge.2) ↔ ∃ x ∈ d.transitions, Q x := by
  have hedges := forall₂_edges h
  -- the induction is on the pairs, while `d` itself stays in their relation
  generalize d.transitions = transitions at hedges
  generalize t.edges = edges at hedges
  induction hedges with
  | nil => simp
  | cons hedge _ ih =>
    rw [List.exists_mem_cons_iff, List.exists_mem_cons_iff]
    exact or_congr (hPQ hedge.2) ih

theorem mem_expressions_iff (h : d.resolve = .ok t) {expression : String} :
    expression ∈ t.expressions ↔ ∃ x ∈ d.transitions, ∃ c,
      (∃ id ∈ x.condition, Means FlowCondition.id d.conditions id c) ∧
        c.expression = expression := by
  rw [FlowTable.expressions, mem_ascending, List.mem_filterMap]
  refine exists_edge_iff h
    (P := fun joined => joined.condition.map (·.expression) = some expression) ?_
  intro x joined hjoins
  rw [Option.map_eq_some_iff]
  simp only [eq_some_iff_of_rel hjoins.condition]

theorem mem_actionTypes_iff (h : d.resolve = .ok t) {type : String} :
    type ∈ t.actionTypes ↔ ∃ x ∈ d.transitions, ∃ a,
      (∃ id ∈ x.action, Means FlowAction.id d.actions id a) ∧ a.type = type := by
  rw [FlowTable.actionTypes, mem_ascending, List.mem_filterMap]
  refine exists_edge_iff h (P := fun joined => joined.action.map (·.type) = some type) ?_
  intro x joined hjoins
  rw [Option.map_eq_some_iff]
  simp only [eq_some_iff_of_rel hjoins.action]

end FlowDefinition

/-- The transitions of all states together are all transitions of `t`. -/
theorem FlowTable.sum_length_transitionsFrom (t : FlowTable) :
    ((t.edges.map (·.1)).dedup.map fun name => (t.transitionsFrom name).length).sum =
      t.transitionCount := by
  -- a state has as many transitions as its name stands in front of edges
  have hlength : ∀ name, (t.transitionsFrom name).length = (t.edges.map (·.1)).count name := by
    intro name
    rw [transitionsFrom, List.length_map, ← List.countP_eq_length_filter, List.count,
      List.countP_map]
    apply List.countP_congr
    intro edge _
    simp
  simp only [hlength]
  rw [List.sum_map_count_dedup_eq_length, List.length_map, transitionCount]

namespace FlowDefinition

/-- What is to hold of the table `t` that the definitions `d` were resolved to, whatever they
declare twice. -/
structure Resolved (d : FlowDefinition) (t : FlowTable) : Prop where
  /-- A state has the transitions of the file that leave it (`Leaves`), in the order of the file and
  with everything in place. -/
  transitions : ∀ name, ∃ listed, t.store.transitions name = .ok listed ∧
    List.Forall₂ d.Joins (d.transitions.filter (d.Leaves · name)) listed
  /-- The states are the names that the file declares. -/
  states : ∀ name, ∃ found, t.store.stateExists name = .ok found ∧
    (found = true ↔ ∃ s ∈ d.states, s.name = name)
  /-- There are as many transitions as in the file, and all of them leave some state. -/
  count : t.transitionCount = d.transitions.length ∧
    ((t.edges.map (·.1)).dedup.map fun name => (t.transitionsFrom name).length).sum =
      d.transitions.length
  /-- The expressions that some transition carries are listed once each, in ascending order. -/
  expressions : t.expressions.Pairwise (· < ·) ∧
    ∀ expression, expression ∈ t.expressions ↔ ∃ x ∈ d.transitions, ∃ c,
      (∃ id ∈ x.condition, Means FlowCondition.id d.conditions id c) ∧ c.expression = expression
  /-- So are the types of the actions that some transition carries. -/
  actionTypes : t.actionTypes.Pairwise (· < ·) ∧
    ∀ type, type ∈ t.actionTypes ↔ ∃ x ∈ d.transitions, ∃ a,
      (∃ id ∈ x.action, Means FlowAction.id d.actions id a) ∧ a.type = type

/-- `FlowDefinition.resolve` loses, repeats and reorders nothing. -/
theorem resolved_of_resolve {d : FlowDefinition} {t : FlowTable} (h : d.resolve = .ok t) :
    d.Resolved t where
  transitions := fun name => ⟨t.transitionsFrom name, rfl, forall₂_transitionsFrom h name⟩
  states := by
    intro name
    refine ⟨t.hasState name, rfl, ?_⟩
    obtain ⟨_, edges, _, rfl⟩ := resolve_eq_ok_iff.1 h
    rw [FlowTable.hasState_iff]
    exact List.mem_map
  count := by
    have hlength : t.transitionCount = d.transitions.length := (forall₂_edges h).length_eq.symm
    exact ⟨hlength, t.sum_length_transitionsFrom.trans hlength⟩
  expressions := ⟨pairwise_ascending _, fun _ => mem_expressions_iff h⟩
  actionTypes := ⟨pairwise_ascending _, fun _ => mem_actionTypes_iff h⟩

/-- A number that is declared twice and a name that two numbers have. -/
theorem resolved_of_repeats :
    let d : FlowDefinition := {
      initialState := "saludo"
      states := [⟨1, "despedida"⟩, ⟨2, "oferta"⟩, ⟨1, "saludo"⟩, ⟨3, "oferta"⟩]
      conditions := [⟨7, "saldo_mayor_1000"⟩, ⟨7, "cliente_selecciona_plan"⟩]
      actions := [⟨5, "responder", "send_template", .null⟩]
      transitions := [⟨10, 2, some 7, none, 1⟩, ⟨11, 1, none, some 5, 3⟩, ⟨12, 3, none, none, 2⟩] }
    ∃ t, d.resolve = .ok t ∧ d.Resolved t ∧
      (t.transitionsFrom "oferta").map (·.target) = ["saludo", "oferta"] ∧
      (t.transitionsFrom "saludo").map (·.target) = ["oferta"] ∧
      t.expressions = ["cliente_selecciona_plan"] ∧ t.actionTypes = ["send_template"] :=
  ⟨_, rfl, resolved_of_resolve rfl, by decide, by decide, by decide, by decide⟩

end FlowDefinition

end Dunning
