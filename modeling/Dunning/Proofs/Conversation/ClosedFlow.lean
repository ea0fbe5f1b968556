import Dunning.Proofs.Conversation.Runs
import Dunning.Proofs.Flow.Resolution

/-!
# Conversations over a closed flow

Over a closed table (`FlowTable.Closed`) a conversation never meets a fault of the flow: it stays
among the states of the table, and a step fails for want of a transition or for its action only
(`Step.FaultFree`). Every table that was resolved is closed.
-/

namespace Dunning

/-- The step `s` did not fail for a fault of the flow or of its store. -/
structure Step.FaultFree (s : Step) : Prop where
  known : ∀ name, s.result ≠ .failed (.unknownState name)
  bound : ∀ source target, s.result ≠ .failed (.danglingTransition source target)
  answered : ∀ cause, s.result ≠ .failed (.store cause)

theorem Step.faultFree_of {s : Step} (h : ∀ error, s.result = .failed error →
    error.isNoMatch = true ∨ error.isAction = true) : s.FaultFree := by
  constructor
  · intro name hname
    rcases h _ hname with hkind | hkind <;> cases hkind
  · intro source target hdangling
    rcases h _ hdangling with hkind | hkind <;> cases hkind
  · intro cause hcause
    rcases h _ hcause with hkind | hkind <;> cases hkind

namespace FlowTable.Closed

variable {t : FlowTable} {state : String}

/-- From a state of a closed table `Engine.select` fails only when no transition is open. -/
theorem error_of_select (ht : t.Closed) (hstate : state ∈ t.states) {executor : Executor}
    {conditions : Evaluator} {ctx : Context} {error : FlowError}
    (h : { store := t.store, executor, conditions : Engine }.select state ctx = .error error) :
    error = .noApplicableTransition state := by
  have hselects := { store := t.store, executor, conditions : Engine }.selects_select state ctx
  rw [h] at hselects
  cases hselects with
  -- a table answers every question, so the answers that are errors are none of its
  | sourceUnanswered source => cases source
  | sourceMissing source =>
    have hmissing : t.hasState state = false := Except.ok.inj source
    rw [FlowTable.hasState_iff.2 hstate] at hmissing
    cases hmissing
  | unlisted _ listing => cases listing
  | closed => rfl
  | targetUnanswered _ _ _ target => cases target
  | @targetMissing ts i transition _ listing first target =>
    -- the chosen transition is an edge of the table, and edges lead to states of the table
    have hmissing : t.hasState transition.target = false := Except.ok.inj target
    obtain rfl := Except.ok.inj listing
    have hmem : transition ∈ t.transitionsFrom state := List.mem_of_getElem? first.listed
    rw [FlowTable.hasState_iff.2 (ht.target _ (FlowTable.mem_transitionsFrom_iff.1 hmem))]
      at hmissing
    cases hmissing

/-- Where there is a transition without a condition, some transition is chosen. -/
theorem exists_chooses (ht : t.Closed) (hstate : state ∈ t.states) {transition : Transition}
    (hlisted : transition ∈ t.transitionsFrom state) (hdefault : transition.condition = none)
    (executor : Executor) (conditions : Evaluator) (ctx : Context) :
    ∃ i chosen, { store := t.store, executor, conditions : Engine }.Chooses state ctx i chosen := by
  have hselects := { store := t.store, executor, conditions : Engine }.selects_select state ctx
  cases hselect : { store := t.store, executor, conditions : Engine }.select state ctx with
  | ok selection => exact ⟨_, _, Engine.select_eq_ok_iff.1 hselect⟩
  | error error =>
    obtain rfl := ht.error_of_select hstate hselect
    rw [hselect] at hselects
    -- without a condition the transition is open, so the list is not closed
    cases hselects with
    | closed _ listing closed =>
      obtain rfl := Except.ok.inj listing
      exact absurd (.inl hdefault) (closed transition hlisted)

/-- Where nothing leaves a state, `Engine.select` reports that no transition is open. -/
theorem select_of_nil (ht : t.Closed) (hstate : state ∈ t.states)
    (hnil : t.transitionsFrom state = []) (executor : Executor) (conditions : Evaluator)
    (ctx : Context) : { store := t.store, executor, conditions : Engine }.select state ctx =
      .error (.noApplicableTransition state) := by
  cases hselect : { store := t.store, executor, conditions : Engine }.select state ctx with
  | ok selection =>
    obtain ⟨ts, hlisting, first⟩ := (Engine.select_eq_ok_iff.1 hselect).first
    obtain rfl := Except.ok.inj hlisting
    have hmem := List.mem_of_getElem? first.listed
    rw [hnil] at hmem
    cases hmem
  | error error => rw [ht.error_of_select hstate hselect]

/-- A step from a state of a closed table is `FaultFree`, and stays in the table. -/
theorem faultFree_step (ht : t.Closed) (hstate : state ∈ t.states) (executor : Executor)
    (conditions : Evaluator) (around : Circumstances) (ctx : Context) :
    ({ store := t.store, executor, conditions : Engine }.step around state ctx).FaultFree ∧
      ∀ o, ({ store := t.store, executor, conditions : Engine }.step around state ctx).result =
        .advanced o → o.target ∈ t.states := by
  constructor
  · apply Step.faultFree_of
    intro error herror
    rcases Engine.step_cases _ around state ctx with ⟨error', hselect, hstep⟩ |
      ⟨i, transition, _, _, hstep⟩ | ⟨i, transition, a, _, _, hstep⟩
    · rw [hstep] at herror
      obtain rfl := StepResult.failed.inj herror
      obtain rfl := ht.error_of_select hstate hselect
      exact .inl rfl
    · simp [hstep] at herror
    · rw [hstep] at herror
      exact .inr (Engine.resultOf_eq_failed herror)
  · intro o ho
    obtain ⟨i, transition, chooses, ⟨_, rfl⟩ | ⟨a, changes, _, rfl, _⟩⟩ :=
      Engine.advanced_cases ho
    · exact FlowTable.hasState_iff.1 (Except.ok.inj chooses.target)
    · exact FlowTable.hasState_iff.1 (Except.ok.inj chooses.target)

/-- A `turn` leaves a conversation in the table, whatever is edited and whatever the action brings.
-/
theorem faultFree_turn (ht : t.Closed) (c : Conversation) (turn : Turn) (hc : c.state ∈ t.states) :
    (c.turn t.store turn).1.state ∈ t.states ∧
      ∀ s ∈ (c.turn t.store turn).2, s.FaultFree := by
  cases turn with
  | edit change => exact ⟨hc, by simp⟩
  | message executor conditions around text =>
    obtain ⟨hfree, htarget⟩ := ht.faultFree_step hc executor conditions around (c.context.setMessage text)
    rw [Conversation.turn_message]
    refine ⟨?_, by simpa using hfree⟩
    cases hresult : ({ store := t.store, executor, conditions : Engine }.step around c.state
        (c.context.setMessage text)).result with
    | advanced o => simpa [Conversation.settle, Conversation.advance, hresult] using htarget o hresult
    | failed error => simpa [Conversation.settle, hresult] using hc
    | abandoned => simpa [Conversation.settle, hresult] using hc

end FlowTable.Closed

/-- A conversation over a flow that was resolved, begun at its first state, is always in a state of
the flow, and no step of it fails for a fault of the flow or of its store, whatever `turns` it
takes. -/
theorem faultFree_of_resolve {d : FlowDefinition} {t : FlowTable} (h : d.resolve = .ok t)
    (around : Circumstances) (ctx : Context) (turns : List Turn) :
    let r := (Conversation.start around t.store.initialState ctx).run t.store turns
    t.store.stateExists r.1.state = .ok true ∧ ∀ s ∈ r.2, s.FaultFree := by
  have ht : t.Closed := FlowDefinition.closed_of_resolve h
  have hrun := Conversation.run_invariant (c := Conversation.start around t.store.initialState ctx)
    ht.faultFree_turn ht.initial turns
  refine ⟨?_, hrun.2⟩
  show Except.ok (t.hasState _) = .ok true
  rw [FlowTable.hasState_iff.2 hrun.1]

/-- A flow in which a number is defined twice, and a run that gets to the later definition. -/
theorem faultFree_of_repeated_number :
    let d : FlowDefinition := {
      states := [⟨1, "start"⟩, ⟨2, "lost"⟩, ⟨2, "debt"⟩]
      transitions := [⟨1, 1, none, none, 2⟩] }
    let t : FlowTable := ⟨"start", ["start", "lost", "debt"], [("start", ⟨none, none, "debt"⟩)]⟩
    let around : Circumstances := { now := ⟨0, 0, 0⟩, token := "" }
    let greeting : Turn := .message (fun _ _ => ⟨[], .abandoned⟩) .empty around "hola"
    let r := (Conversation.start around t.store.initialState ∅).run t.store [greeting, greeting]
    d.resolve = .ok t ∧ r.1.state = "debt" ∧ t.store.stateExists r.1.state = .ok true ∧
      ∀ s ∈ r.2, s.FaultFree := by
  intro d t around greeting r
  have hresolve : d.resolve = .ok t := by rfl
  have hstate : r.1.state = "debt" := by rfl
  exact ⟨hresolve, hstate, faultFree_of_resolve hresolve around ∅ [greeting, greeting]⟩

end Dunning
