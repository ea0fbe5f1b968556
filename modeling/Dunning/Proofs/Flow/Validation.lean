import Dunning.Proofs.Flow.Resolution
import Mathlib.Data.List.Nodup

/-!
# When a flow is valid

Definitions are checked twice. `FlowDefinition.validate` goes through them table by table and stops
at the first fault; `FlowDefinition.resolve` looks the numbers up while it builds the table of the
flow, and knows nothing of repeats. Both agree on references: what resolves is exactly what is
complete (`exists_resolve_eq_ok_iff`), and what is valid is exactly what is complete and uses every
number and every name once (`validates_iff_resolves`).
-/

namespace Dunning

/-! ## Repeats -/

/-- `firstRepeat?` finds nothing among new elements that differ from each other and from the earlier
ones, and only among these. -/
theorem firstRepeat?_eq_none_iff {α : Type} [BEq α] [LawfulBEq α] {earlier xs : List α} :
    firstRepeat? earlier xs = none ↔ (∀ x ∈ xs, x ∉ earlier) ∧ xs.Nodup := by
  induction xs generalizing earlier with
  | nil => simp [firstRepeat?]
  | cons x rest ih =>
    rw [firstRepeat?, List.nodup_cons, List.forall_mem_cons]
    by_cases hx : x ∈ earlier
    · simp [hx]
    · -- what follows is now compared with `x` as well
      have hnew : (∀ y ∈ rest, y ∉ x :: earlier) ↔ x ∉ rest ∧ ∀ y ∈ rest, y ∉ earlier := by
        simp only [List.mem_cons, not_or, forall_and]
        exact and_congr_left' ⟨fun h hmem => h x hmem rfl, fun h y hy hyx => h (hyx ▸ hy)⟩
      rw [if_neg (by simpa using hx), ih, hnew]
      tauto

theorem firstRepeat?_nil_eq_none_iff {α : Type} [BEq α] [LawfulBEq α] {xs : List α} :
    firstRepeat? [] xs = none ↔ xs.Nodup := by
  simp [firstRepeat?_eq_none_iff]

theorem contains_map {α β : Type} [DecidableEq β] {f : α → β} {xs : List α} {y : β} :
    (xs.map f).contains y = xs.any (f · = y) := by
  rw [Bool.eq_iff_iff]
  simp

namespace FlowDefinition

variable {d : FlowDefinition}

theorem checkIds_eq_ok_iff {table : String} {ids : List UInt32} :
    checkIds table ids = .ok () ↔ ids.Nodup := by
  rw [← firstRepeat?_nil_eq_none_iff, checkIds]
  cases firstRepeat? [] ids <;> simp

theorem checkActionNames_eq_ok_iff :
    d.checkActionNames = .ok () ↔ (d.actions.map (·.name)).Nodup := by
  rw [← firstRepeat?_nil_eq_none_iff, checkActionNames]
  cases firstRepeat? [] (d.actions.map (·.name)) <;> simp

/-- `checkStates` searches the states for repeated numbers and for repeated names at once. -/
theorem checkStates_eq_ok_iff {earlier states : List FlowState} :
    checkStates earlier states = .ok () ↔
      firstRepeat? (earlier.map (·.id)) (states.map (·.id)) = none ∧
      firstRepeat? (earlier.map (·.name)) (states.map (·.name)) = none := by
  induction states generalizing earlier with
  | nil => simp [checkStates, firstRepeat?]
  | cons s rest ih =>
    rw [checkStates, List.map_cons, List.map_cons, firstRepeat?, firstRepeat?, contains_map,
      contains_map]
    split
    · simp
    split
    · simp
    · exact ih

/-! ## References -/

/-- Everything that the transition `t` refers to is declared in `d`. -/
structure Refers (d : FlowDefinition) (t : FlowTransition) : Prop where
  source : t.source ∈ d.states.map (·.id)
  target : t.target ∈ d.states.map (·.id)
  condition : ∀ id ∈ t.condition, id ∈ d.conditions.map (·.id)
  action : ∀ id ∈ t.action, id ∈ d.actions.map (·.id)

/-- The first state of `d` is defined, and so is everything that transitions refer to. -/
structure Complete (d : FlowDefinition) : Prop where
  initial : d.initialState ∈ d.states.map (·.name)
  transitions : ∀ t ∈ d.transitions, d.Refers t

/-- Every number is used once in its table, and so is every name of a state or an action. -/
structure Unambiguous (d : FlowDefinition) : Prop where
  stateIds : (d.states.map (·.id)).Nodup
  stateNames : (d.states.map (·.name)).Nodup
  conditionIds : (d.conditions.map (·.id)).Nodup
  actionIds : (d.actions.map (·.id)).Nodup
  actionNames : (d.actions.map (·.name)).Nodup
  transitionIds : (d.transitions.map (·.id)).Nodup

/-- No number is left when those that are declared are taken out. -/
theorem filter_not_contains_eq_none_iff {ids : List UInt32} {id? : Option UInt32} :
    (id?.filter fun id => !ids.contains id) = none ↔ ∀ id ∈ id?, id ∈ ids := by
  rw [Option.filter_eq_none_iff]
  simp

theorem checkTransition_eq_ok_iff {t : FlowTransition} :
    d.checkTransition t = .ok () ↔ d.Refers t := by
  have hrefers : d.Refers t ↔
      d.states.any (·.id = t.source) = true ∧ d.states.any (·.id = t.target) = true ∧
      (t.condition.filter fun id => !(d.conditions.map (·.id)).contains id) = none ∧
      (t.action.filter fun id => !(d.actions.map (·.id)).contains id) = none := by
    rw [filter_not_contains_eq_none_iff, filter_not_contains_eq_none_iff, ← contains_map,
      ← contains_map, List.contains_iff_mem, List.contains_iff_mem]
    exact ⟨fun h => ⟨h.source, h.target, h.condition, h.action⟩,
      fun ⟨source, target, condition, action⟩ => ⟨source, target, condition, action⟩⟩
  rw [hrefers]
  -- the checks are made in this order, and the first one that fails ends them
  unfold checkTransition
  dsimp only
  cases d.states.any (·.id = t.source) with
  | false => simp
  | true =>
    cases d.states.any (·.id = t.target) with
    | false => simp
    | true =>
      cases t.condition.filter fun id => !(d.conditions.map (·.id)).contains id with
      | some id => simp
      | none =>
        cases t.action.filter fun id => !(d.actions.map (·.id)).contains id with
        | some id => simp
        | none => simp

theorem exists_stateName?_iff {id : UInt32} :
    (∃ name, d.stateName? id = some name) ↔ id ∈ d.states.map (·.id) := by
  rw [← exists_means_iff]
  simp only [stateName?_eq_some_iff]
  exact ⟨fun ⟨_, s, hs, _⟩ => ⟨s, hs⟩, fun ⟨s, hs⟩ => ⟨_, s, hs, rfl⟩⟩

/-- A number that may be absent can be looked up (`Means`) unless it is present and not declared. -/
theorem exists_rel_means_iff {α : Type} {number : α → UInt32} {table : List α}
    {id? : Option UInt32} :
    (∃ record?, Option.Rel (Means number table) id? record?) ↔
      ∀ id ∈ id?, id ∈ table.map number := by
  cases id? with
  | none => exact ⟨fun _ _ h => (by cases h), fun _ => ⟨none, .none⟩⟩
  | some id =>
    simp only [Option.mem_def, Option.some.injEq, forall_eq', ← exists_means_iff]
    constructor
    · rintro ⟨_, ⟨hrecord⟩⟩
      exact ⟨_, hrecord⟩
    · rintro ⟨record, hrecord⟩
      exact ⟨some record, .some hrecord⟩

/-- `resolveTransition` succeeds when everything that the transition refers to is declared. -/
theorem exists_resolveTransition_eq_ok_iff {t : FlowTransition} :
    (∃ edge, d.resolveTransition t = .ok edge) ↔ d.Refers t := by
  simp only [resolveTransition_eq_ok_iff]
  constructor
  · rintro ⟨edge, hsource, hjoins⟩
    obtain ⟨target, htarget, _⟩ := hjoins.target
    exact ⟨exists_stateName?_iff.1 ⟨_, hsource⟩, exists_means_iff.1 ⟨_, htarget⟩,
      exists_rel_means_iff.1 ⟨_, hjoins.condition⟩, exists_rel_means_iff.1 ⟨_, hjoins.action⟩⟩
  · intro h
    obtain ⟨source, hsource⟩ := exists_stateName?_iff.2 h.source
    obtain ⟨target, htarget⟩ := exists_means_iff.2 h.target
    obtain ⟨condition, hcondition⟩ := exists_rel_means_iff.2 h.condition
    obtain ⟨action, haction⟩ := exists_rel_means_iff.2 h.action
    exact ⟨(source, ⟨condition, action, target.name⟩), hsource, ⟨target, htarget, rfl⟩, hcondition,
      haction⟩

theorem exists_resolve_eq_ok_iff : (∃ t, d.resolve = .ok t) ↔ d.Complete := by
  have hedges : (∃ edges, d.transitions.mapM d.resolveTransition = .ok edges) ↔
      ∀ t ∈ d.transitions, d.Refers t := by
    simp only [exists_mapM_eq_ok_iff, exists_resolveTransition_eq_ok_iff]
  simp only [resolve_eq_ok_iff]
  constructor
  · rintro ⟨_, hinitial, edges, hok, rfl⟩
    exact ⟨hinitial, hedges.1 ⟨edges, hok⟩⟩
  · rintro ⟨hinitial, hrefers⟩
    obtain ⟨edges, hok⟩ := hedges.2 hrefers
    exact ⟨_, hinitial, edges, hok, rfl⟩

/-- `validate` accepts what is complete and uses every number and every name once. -/
theorem validate_eq_ok_iff : d.validate = .ok () ↔ d.Unambiguous ∧ d.Complete := by
  -- the checks come in another order than the parts of the two structures
  unfold validate
  simp only [check_bind_eq_ok_iff, checkStates_eq_ok_iff, checkInitial_eq_ok_iff,
    checkIds_eq_ok_iff, checkActionNames_eq_ok_iff, forM_eq_ok_iff, checkTransition_eq_ok_iff,
    List.map_nil, firstRepeat?_nil_eq_none_iff]
  constructor
  · rintro ⟨⟨stateIds, stateNames⟩, initial, conditionIds, actionIds, actionNames, transitionIds,
      transitions⟩
    exact ⟨⟨stateIds, stateNames, conditionIds, actionIds, actionNames, transitionIds⟩,
      ⟨initial, transitions⟩⟩
  · rintro ⟨unique, complete⟩
    exact ⟨⟨unique.stateIds, unique.stateNames⟩, complete.initial, unique.conditionIds,
      unique.actionIds, unique.actionNames, unique.transitionIds, complete.transitions⟩

/-- `validate` and `resolve` agree on what a good flow is. -/
theorem validates_iff_resolves (d : FlowDefinition) :
    (d.validate = .ok () ↔ d.Unambiguous ∧ ∃ t, d.resolve = .ok t) ∧
    ((∃ t, d.resolve = .ok t) ↔ d.Complete) := by
  rw [exists_resolve_eq_ok_iff, validate_eq_ok_iff]
  exact ⟨Iff.rfl, Iff.rfl⟩

end FlowDefinition

end Dunning
