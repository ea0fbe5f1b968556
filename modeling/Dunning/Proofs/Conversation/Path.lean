import Dunning.Proofs.Conversation.Runs
import Mathlib.Data.List.Chain

/-!
# The history is a path through the flow

The state of a conversation, the records of its history and the transitions that were taken are
three things that have to agree. `IsPath` says so of a history without the conversation: every
record begins where the one before it ended, and is one of the transitions that the store lists
there. Only a step that advances adds a record, and it adds one that continues the path
(`IsPath.settle`); so the history is a path after anything that can happen to a conversation.
-/

namespace Dunning

/-- The transition that the record `r` tells of is listed by `store` for the state that it left. -/
def TransitionRecord.IsListed (r : TransitionRecord) (store : FlowStore) : Prop :=
  ∃ ts, store.transitions r.source = .ok ts ∧
    ∃ t ∈ ts, t.target = r.target ∧ t.action.map (·.name) = r.action

/-- The records lead from `source` to `target`, along transitions of `store`. -/
structure IsPath (store : FlowStore) (source target : String) (records : List TransitionRecord) :
    Prop where
  /-- The first record begins at `source`. -/
  first : ∀ r, records.head? = some r → r.source = source
  /-- Every other record begins where the one before it ended. -/
  linked : records.IsChain fun r next => next.source = r.target
  /-- The last record ends at `target`; without records `target` is `source`. -/
  last : target = (records.getLast?.map (·.target)).getD source
  listed : ∀ r ∈ records, r.IsListed store

namespace IsPath

variable {store : FlowStore} {source target : String} {records : List TransitionRecord}

theorem nil (store : FlowStore) (source : String) : IsPath store source source [] where
  first := by simp
  linked := List.isChain_nil
  last := rfl
  listed := by simp

/-- A path goes on with a listed transition that leaves its target. -/
theorem concat (h : IsPath store source target records) {r : TransitionRecord}
    (hsource : r.source = target) (hlisted : r.IsListed store) :
    IsPath store source r.target (records ++ [r]) where
  first := by
    intro r' hr'
    cases records with
    | nil =>
      have htarget : target = source := h.last
      obtain rfl : r = r' := by simpa using hr'
      exact hsource.trans htarget
    | cons head rest => exact h.first r' hr'
  linked := by
    rw [List.isChain_append]
    refine ⟨h.linked, List.isChain_singleton r, ?_⟩
    intro last hlast next hnext
    obtain rfl : r = next := by simpa using hnext
    have hlast' : records.getLast? = some last := hlast
    have htarget : target = last.target := by rw [h.last, hlast', Option.map_some, Option.getD_some]
    exact hsource.trans htarget
  last := by simp
  listed := by
    intro r' hr'
    rcases List.mem_append.1 hr' with hold | hnew
    · exact h.listed r' hold
    · obtain rfl := List.mem_singleton.1 hnew
      exact hlisted

end IsPath

/-! ## Steps -/

/-- Whether a step advanced the conversation. -/
def Step.hasAdvanced (s : Step) : Bool :=
  s.result.success? = some true

/-- The record of a step that advanced is of a transition that the store lists (`IsListed`). -/
theorem isListed_of_advanced {e : Engine} {around : Circumstances} {state : String} {ctx : Context}
    {o : Outcome} (h : (e.step around state ctx).result = .advanced o) :
    o.source = state ∧
      TransitionRecord.IsListed ⟨o.source, o.target, o.action.map (·.name), around.now⟩ e.store := by
  obtain ⟨i, t, chooses, houtcome⟩ := Engine.advanced_cases h
  obtain ⟨ts, hts, first⟩ := chooses.first
  have hmem : t ∈ ts := List.mem_of_getElem? first.listed
  rcases houtcome with ⟨haction, rfl⟩ | ⟨a, changes, haction, rfl, _⟩
  · exact ⟨rfl, ts, hts, t, hmem, rfl, by rw [haction]; rfl⟩
  · exact ⟨rfl, ts, hts, t, hmem, rfl, by rw [haction]; rfl⟩

namespace Conversation

/-- `settle` adds one record if the step advances, and none if it does not. -/
theorem length_history_settle (c : Conversation) (now : Timestamp) (s : Step) :
    (c.settle now s.result).history.length =
      c.history.length + [s].countP Step.hasAdvanced := by
  rw [List.countP_singleton]
  unfold Step.hasAdvanced
  cases s.result with
  | advanced o => simp [settle, advance, StepResult.success?]
  | failed error => simp [settle, StepResult.success?]
  | abandoned => simp [settle, StepResult.success?]

/-- A step from where a conversation is continues its path from `source`. -/
theorem isPath_settle {c : Conversation} {source : String} {e : Engine}
    (h : IsPath e.store source c.state c.history) (around : Circumstances) (ctx : Context) :
    let after := { c with context := ctx }.settle around.now (e.step around c.state ctx).result
    IsPath e.store source after.state after.history := by
  intro after
  by_cases hadvanced : ∃ o, (e.step around c.state ctx).result = .advanced o
  · obtain ⟨o, ho⟩ := hadvanced
    obtain ⟨hsource, hlisted⟩ := isListed_of_advanced ho
    have hafter : after = { c with context := ctx }.advance around.now o := by
      show settle _ _ (e.step around c.state ctx).result = _
      rw [ho]
      rfl
    rw [hafter]
    exact h.concat hsource hlisted
  · have hnot : ∀ o, (e.step around c.state ctx).result ≠ .advanced o :=
      fun o ho => hadvanced ⟨o, ho⟩
    have hafter : after = { c with context := ctx } := settle_of_not_advanced hnot _ _
    rw [hafter]
    exact h

/-! ## Lives -/

/-- What can happen to a conversation over a flow that stays the same: a turn, or a message that is
dispatched under a decision and recorded in a monitor. -/
inductive Happening where
  | turn (turn : Turn)
  | dispatch (executor : Executor) (conditions : Evaluator) (monitor : Monitor)
      (around : Circumstances) (message : String) (decision : Decision)

/-- The conversation after something happened, and the step that was taken if there was one. -/
def meet (c : Conversation) (store : FlowStore) : Happening → Conversation × List Step
  | .turn turn => c.turn store turn
  | .dispatch executor conditions monitor around message decision =>
    let d := { store, executor, conditions : Engine }.dispatch monitor around c message decision
    (d.conversation, [d.step])

/-- The conversation after all that happened, and the steps that were taken, in order. -/
def live (c : Conversation) (store : FlowStore) : List Happening → Conversation × List Step
  | [] => (c, [])
  | happening :: rest =>
    let (after, steps) := c.meet store happening
    let (last, later) := after.live store rest
    (last, steps ++ later)

theorem live_cons (c : Conversation) (store : FlowStore) (happening : Happening)
    (rest : List Happening) :
    c.live store (happening :: rest) =
      (((c.meet store happening).1.live store rest).1,
        (c.meet store happening).2 ++ ((c.meet store happening).1.live store rest).2) := rfl

variable {c : Conversation} {store : FlowStore} {source : String}

theorem isPath_meet (h : IsPath store source c.state c.history) (happening : Happening) :
    let r := c.meet store happening
    IsPath store source r.1.state r.1.history ∧
      r.1.history.length = c.history.length + r.2.countP Step.hasAdvanced := by
  unfold meet
  cases happening with
  | turn turn =>
    cases turn with
    | edit change => exact ⟨h, rfl⟩
    | message executor conditions around text =>
      dsimp only
      rw [turn_message]
      exact ⟨isPath_settle (e := { store, executor, conditions }) h around _,
        length_history_settle _ around.now _⟩
  | dispatch executor conditions monitor around message decision =>
    dsimp only
    rw [Engine.dispatch_conversation, Engine.dispatch_step]
    exact ⟨isPath_settle (e := { store, executor, conditions }) h around _,
      length_history_settle _ around.now _⟩

theorem isPath_live_of_isPath (h : IsPath store source c.state c.history)
    (happenings : List Happening) :
    let r := c.live store happenings
    IsPath store source r.1.state r.1.history ∧
      r.1.history.length = c.history.length + r.2.countP Step.hasAdvanced := by
  induction happenings generalizing c with
  | nil => exact ⟨h, rfl⟩
  | cons happening rest ih =>
    obtain ⟨hpath, hlength⟩ := isPath_meet h happening
    obtain ⟨hlast, hcount⟩ := ih hpath
    rw [live_cons]
    refine ⟨hlast, ?_⟩
    dsimp only
    rw [List.countP_append]
    omega

/-- Whatever happens to a conversation, its history is a path from `source`, where it began, to
where it is, with one record for each step that advanced. -/
theorem isPath_live (store : FlowStore) (around : Circumstances) (source : String)
    (ctx : Context) (happenings : List Happening) :
    let r := (start around source ctx).live store happenings
    IsPath store source r.1.state r.1.history ∧
      r.1.history.length = r.2.countP Step.hasAdvanced := by
  have hstart : IsPath store source (start around source ctx).state
      (start around source ctx).history := IsPath.nil store source
  obtain ⟨hpath, hlength⟩ := isPath_live_of_isPath hstart happenings
  refine ⟨hpath, hlength.trans ?_⟩
  exact Nat.zero_add _

end Conversation

end Dunning
