import Dunning.Proofs.Condition.Meaning
import Dunning.Proofs.Engine.Step

/-!
# What a description says about steps

`Engine.describe` goes through the transitions of a state without a context and asks which
conditions are known; `Engine.step` goes through them in a context and asks which condition holds.
Both go by the same positions, so a description foretells every step: what was taken is described at
its position, and what is described before it was passed over for a condition that does not hold. A
condition that is not known never holds, so what is described with such a condition is never taken.
-/

namespace Dunning

/-- What the description `info` of a transition says about the outcome `o` of taking it in `ctx`. -/
structure TransitionInfo.Tells (info : TransitionInfo) (ev : Evaluator) (ctx : Context)
    (o : Outcome) : Prop where
  target : info.target = o.target
  action : info.action = o.action.map (·.name)
  actionType : info.actionType = o.action.map (·.type)
  known : info.conditionKnown = true
  holds : ∀ condition ∈ info.condition, ev.evaluate condition ctx = true

/-- Only what `isKnown` holds. -/
theorem Evaluator.isKnown_of_evaluate {ev : Evaluator} {text : String} {ctx : Context}
    (h : ev.evaluate text ctx = true) : ev.isKnown text = true := by
  by_contra hknown
  rw [evaluate_of_not_isKnown (Bool.eq_false_iff.2 hknown)] at h
  cases h

namespace Engine

variable {e : Engine} {state : String} {ctx : Context} {t : Transition} {i : Nat}

/-! ## One transition -/

theorem conditionKnown_info_iff : (e.info t).conditionKnown = true ↔
    ∀ condition ∈ (e.info t).condition, e.conditions.isKnown condition = true := by
  unfold info
  cases t.condition <;> simp

theorem evaluate_of_isOpen (h : t.IsOpen e.conditions ctx) :
    ∀ condition ∈ (e.info t).condition, e.conditions.evaluate condition ctx = true := by
  rcases h with hnone | ⟨c, hc, hholds⟩
  · simp [info, hnone]
  · simpa [info, hc] using hholds

theorem conditionKnown_info_of_isOpen (h : t.IsOpen e.conditions ctx) :
    (e.info t).conditionKnown = true :=
  conditionKnown_info_iff.2 fun condition hcondition =>
    Evaluator.isKnown_of_evaluate (evaluate_of_isOpen h condition hcondition)

theorem exists_condition_of_not_isOpen (h : ¬ t.IsOpen e.conditions ctx) :
    ∃ condition, (e.info t).condition = some condition ∧
      e.conditions.evaluate condition ctx = false := by
  cases hc : t.condition with
  | none => exact absurd (.inl hc) h
  | some c =>
    have hclosed : e.conditions.evaluate c.expression ctx ≠ true :=
      fun hholds => h (.inr ⟨c, hc, hholds⟩)
    exact ⟨c.expression, by simp [info, hc], Bool.eq_false_iff.2 hclosed⟩

/-! ## The list of a state -/

theorem describe_eq_ok_iff {infos : List TransitionInfo} :
    e.describe state = .ok infos ↔ e.store.stateExists state = .ok true ∧
      ∃ ts, e.store.transitions state = .ok ts ∧ ts.map e.info = infos := by
  unfold describe
  cases e.store.stateExists state with
  | error cause => simp
  | ok known =>
    cases known with
    | false => simp
    | true => cases e.store.transitions state <;> simp

/-- `Engine.describe` fails for want of the state, or because the store does not answer. -/
theorem describe_eq_error_iff {error : FlowError} :
    e.describe state = .error error ↔
      (e.store.stateExists state = .ok false ∧ error = .unknownState state) ∨
      ∃ cause, error = .store cause ∧ (e.store.stateExists state = .error cause ∨
        e.store.stateExists state = .ok true ∧ e.store.transitions state = .error cause) := by
  unfold describe
  cases e.store.stateExists state with
  | error cause => simpa using eq_comm
  | ok known =>
    cases known with
    | false => simpa using eq_comm
    | true =>
      cases e.store.transitions state with
      | error cause => simpa using eq_comm
      | ok ts => simp

/-! ## What a step takes -/

/-- The chosen transition is the first open one of the list that is described. -/
theorem firstOpen_of_describe {infos : List TransitionInfo} (h : e.describe state = .ok infos)
    (chooses : e.Chooses state ctx i t) :
    ∃ ts, ts.map e.info = infos ∧ FirstOpen e.conditions ctx ts i t := by
  obtain ⟨_, ts, hts, hinfos⟩ := describe_eq_ok_iff.1 h
  obtain ⟨ts', hts', first⟩ := chooses.first
  obtain rfl := Except.ok.inj (hts.symm.trans hts')
  exact ⟨ts, hinfos, first⟩

theorem getElem?_of_chooses {infos : List TransitionInfo} (h : e.describe state = .ok infos)
    (chooses : e.Chooses state ctx i t) : infos[i]? = some (e.info t) := by
  obtain ⟨ts, rfl, first⟩ := firstOpen_of_describe h chooses
  rw [List.getElem?_map, first.listed, Option.map_some]

theorem earlier_of_chooses {infos : List TransitionInfo} (h : e.describe state = .ok infos)
    (chooses : e.Chooses state ctx i t) {j : Nat} (hj : j < i) :
    ∃ earlier condition, infos[j]? = some earlier ∧ earlier.condition = some condition ∧
      e.conditions.evaluate condition ctx = false := by
  obtain ⟨ts, rfl, first⟩ := firstOpen_of_describe h chooses
  -- a position before one of the list is a position of the list
  obtain ⟨hi, _⟩ := List.getElem?_eq_some_iff.1 first.listed
  have hu : ts[j]? = some ts[j] := List.getElem?_eq_getElem (Nat.lt_trans hj hi)
  obtain ⟨condition, hcondition, hvalue⟩ :=
    exists_condition_of_not_isOpen (first.least j hj _ hu)
  exact ⟨e.info ts[j], condition, by rw [List.getElem?_map, hu, Option.map_some], hcondition, hvalue⟩

/-- The description of the transition that a step took `Tells` of its outcome. -/
theorem exists_tells_of_advanced {around : Circumstances} {o : Outcome}
    (h : (e.step around state ctx).result = .advanced o) :
    ∃ t, e.Chooses state ctx o.index t ∧ (e.info t).Tells e.conditions ctx o := by
  obtain ⟨t, chooses, htarget, hname, htype⟩ := exists_chooses_of_advanced h
  obtain ⟨_, _, first⟩ := chooses.first
  exact ⟨t, chooses, {
    target := htarget.symm
    action := hname.symm
    actionType := htype.symm
    known := conditionKnown_info_of_isOpen first.isOpen
    holds := evaluate_of_isOpen first.isOpen }⟩

/-! ## Descriptions and steps -/

/-- What is to hold of the `answer` that describes `state`. -/
structure Introspects (e : Engine) (state : String)
    (answer : Except FlowError (List TransitionInfo)) : Prop where
  /-- What a step takes is described at its position `o.index`, and what stands before it has a
  condition that does not hold. -/
  foretells : ∀ infos, answer = .ok infos → ∀ around ctx o,
    (e.step around state ctx).result = .advanced o →
    (∃ info, infos[o.index]? = some info ∧ info.Tells e.conditions ctx o) ∧
    ∀ j < o.index, ∃ earlier condition, infos[j]? = some earlier ∧
      earlier.condition = some condition ∧ e.conditions.evaluate condition ctx = false
  /-- `conditionKnown` marks a transition by whether the condition that it has is known. -/
  marks : ∀ infos, answer = .ok infos → ∀ info ∈ infos, (info.conditionKnown = true ↔
    ∀ condition ∈ info.condition, e.conditions.isKnown condition = true)
  /-- What is described with a condition that is not known is never chosen (`Engine.Chooses`), so no
  step takes it. -/
  idle : ∀ infos, answer = .ok infos → ∀ (i : Nat) info, infos[i]? = some info →
    info.conditionKnown = false → ∀ ctx,
      (∀ t, ¬ e.Chooses state ctx i t) ∧
      ∀ around o, (e.step around state ctx).result = .advanced o → o.index ≠ i
  /-- A description fails for want of the state, or because the store does not answer, and in no
  other case. -/
  fails : ∀ error, answer = .error error ↔
    (e.store.stateExists state = .ok false ∧ error = .unknownState state) ∨
    ∃ cause, error = .store cause ∧ (e.store.stateExists state = .error cause ∨
      e.store.stateExists state = .ok true ∧ e.store.transitions state = .error cause)
  /-- The executor has no part in it. -/
  inert : ∀ x, { e with executor := x }.describe state = answer

/-- A description agrees with every step from `state`. -/
theorem introspects_describe (e : Engine) (state : String) :
    e.Introspects state (e.describe state) where
  foretells := by
    intro infos hinfos around ctx o ho
    obtain ⟨t, chooses, htells⟩ := exists_tells_of_advanced ho
    exact ⟨⟨e.info t, getElem?_of_chooses hinfos chooses, htells⟩,
      fun j hj => earlier_of_chooses hinfos chooses hj⟩
  marks := by
    intro infos hinfos info hmem
    obtain ⟨_, ts, _, rfl⟩ := describe_eq_ok_iff.1 hinfos
    obtain ⟨t, _, rfl⟩ := List.mem_map.1 hmem
    exact conditionKnown_info_iff
  idle := by
    intro infos hinfos i info hlisted hunknown ctx
    have hnever : ∀ t, ¬ e.Chooses state ctx i t := by
      intro t chooses
      obtain rfl := Option.some.inj ((getElem?_of_chooses hinfos chooses).symm.trans hlisted)
      obtain ⟨_, _, first⟩ := chooses.first
      rw [conditionKnown_info_of_isOpen first.isOpen] at hunknown
      cases hunknown
    refine ⟨hnever, ?_⟩
    rintro around o ho rfl
    obtain ⟨t, chooses, _⟩ := exists_chooses_of_advanced ho
    exact hnever t chooses
  fails _ := describe_eq_error_iff
  inert _ := rfl

end Engine

end Dunning
