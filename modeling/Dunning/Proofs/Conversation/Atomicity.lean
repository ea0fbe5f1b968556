import Dunning.Conversation.Basic
import Dunning.Proofs.Engine.Step

/-!
# A message is handled at once or not at all

Handling a message hears it (`Conversation.hear`), takes a step and settles it
(`Conversation.settle`). Whatever goes wrong in the step, the conversation is left as it was but for
what it heard; only a step that advances moves it on, and then all at once. Hearing the same message
again changes nothing (`heard_hear`), so a message that failed can be sent again.
-/

namespace Dunning

namespace Conversation

/-- What `c` knows once `message` was heard: the message, and the intention of the decision `d` if
it has one. -/
def heard (c : Conversation) (message : String) (d : Decision) : Context :=
  (c.knowIntention d).context.setMessage message

/-- The conversation `c` that has heard `message` and has not moved. -/
def hear (c : Conversation) (message : String) (d : Decision) : Conversation :=
  { c with context := c.heard message d }

/-- Where a conversation is once a step has ended. -/
def settle (c : Conversation) (now : Timestamp) : StepResult → Conversation
  | .advanced o => c.advance now o
  | .failed _ => c
  | .abandoned => c

theorem settle_of_not_advanced {r : StepResult} (h : ∀ o, r ≠ .advanced o) (c : Conversation)
    (now : Timestamp) : c.settle now r = c := by
  cases r with
  | advanced o => exact absurd rfl (h o)
  | failed error => rfl
  | abandoned => rfl

/-! ## Hearing a message -/

theorem intentionKey_ne_messageKey : intentionKey ≠ Context.messageKey := by decide

theorem heard_get? (c : Conversation) (message : String) (d : Decision) (key : String) :
    (c.heard message d).get? key =
      if key = Context.messageKey then some (.str message)
      else if key = intentionKey then (d.intention.map .str).or (c.context.get? key)
      else c.context.get? key := by
  unfold heard knowIntention
  rw [Context.setMessage, Context.get?_insert]
  by_cases hmessage : key = Context.messageKey
  · simp [hmessage]
  cases d.intention with
  | none => simp [hmessage]
  | some intention => simp [hmessage, know, Context.get?_insert]

/-- What was `heard` is not changed by hearing it again. -/
theorem heard_hear (c : Conversation) (message : String) (d : Decision) :
    (c.hear message d).heard message d = c.heard message d := by
  unfold hear heard knowIntention
  cases d.intention with
  | none => simp [Context.setMessage]
  | some intention =>
    -- The intention is set before the message, so the second one has to be carried past it.
    simp only [know, Context.setMessage]
    rw [Context.insert_comm _ intentionKey_ne_messageKey, Context.insert_insert_self,
      Context.insert_comm _ intentionKey_ne_messageKey.symm, Context.insert_insert_self]

theorem knowIntention_state (c : Conversation) (d : Decision) :
    (c.knowIntention d).state = c.state := by
  unfold knowIntention
  cases d.intention <;> rfl

/-- `Conversation.handle` hears the message, takes a step and settles it. -/
theorem handle_eq (c : Conversation) (e : Engine) (around : Circumstances) (message : String) :
    c.handle e around message =
      let step := e.step around c.state (c.context.setMessage message)
      ({ c with context := c.context.setMessage message }.settle around.now step.result, step) := by
  unfold handle
  cases hresult : (e.step around c.state (c.context.setMessage message)).result <;>
    simp only [hresult, settle]

/-- Setting the intention and then the message is `hear`. -/
theorem setMessage_knowIntention (c : Conversation) (message : String) (d : Decision) :
    { c.knowIntention d with context := (c.knowIntention d).context.setMessage message } =
      c.hear message d := by
  unfold hear heard knowIntention
  cases d.intention <;> rfl

end Conversation

namespace Engine

variable (e : Engine) (m : Monitor) (around : Circumstances) (c : Conversation)
  (message : String) (d : Decision)

/-! ## Dispatching a message -/

theorem handle_knowIntention :
    (c.knowIntention d).handle e around message =
      let step := e.step around c.state (c.heard message d)
      ((c.hear message d).settle around.now step.result, step) := by
  rw [Conversation.handle_eq, c.setMessage_knowIntention, c.knowIntention_state]
  rfl

theorem dispatch_step :
    (e.dispatch m around c message d).step = e.step around c.state (c.heard message d) := by
  simp only [dispatch, e.handle_knowIntention]

theorem dispatch_conversation :
    (e.dispatch m around c message d).conversation =
      (c.hear message d).settle around.now (e.dispatch m around c message d).step.result := by
  simp only [dispatch, e.handle_knowIntention]

/-- A call whose reply is no `delta` moves no conversation. -/
theorem dispatch_of_no_delta {call : ActionCall}
    (hcalls : (e.dispatch m around c message d).step.calls = [call])
    (hreply : ∀ changes, (e.executor around call).reply ≠ .delta changes) :
    (e.dispatch m around c message d).conversation = c.hear message d := by
  rw [dispatch_conversation]
  apply Conversation.settle_of_not_advanced
  intro o ho
  rw [dispatch_step] at hcalls ho
  rcases e.step_cases around c.state (c.heard message d) with ⟨error, _, hstep⟩ |
    ⟨i, t, _, _, hstep⟩ | ⟨i, t, a, _, _, hstep⟩
  · simp [hstep] at hcalls
  · simp [hstep] at hcalls
  · rw [hstep] at hcalls ho
    obtain rfl := (List.cons.inj hcalls).1
    obtain ⟨changes, hdelta, _⟩ := resultOf_eq_advanced ho
    exact hreply changes hdelta

/-- What is to hold of `r` after `message` was dispatched, whatever the store and the executor
answer. -/
structure IsAtomic (e : Engine) (around : Circumstances) (c : Conversation) (message : String)
    (d : Decision) (r : Dispatched) : Prop where
  /-- The step is taken from `c.state`, in the context that heard the message. -/
  stepped : r.step = e.step around c.state (c.heard message d)
  /-- Hearing the message sets `Context.messageKey`, and `Conversation.intentionKey` if the decision
  has an intention. -/
  heard : ∀ key, (c.heard message d).get? key =
    if key = Context.messageKey then some (.str message)
    else if key = Conversation.intentionKey then (d.intention.map .str).or (c.context.get? key)
    else c.context.get? key
  /-- Unless the step advances, nothing is changed but what was heard. -/
  kept : (∀ o, r.step.result ≠ .advanced o) →
    r.conversation = { c with context := c.heard message d }
  /-- A step that advances goes to `o.target` and adds one record of it. -/
  moved : ∀ o, r.step.result = .advanced o →
    r.conversation.id = c.id ∧ r.conversation.startedAt = c.startedAt ∧
    r.conversation.state = o.target ∧
    r.conversation.history = c.history ++ [⟨c.state, o.target, o.action.map (·.name), around.now⟩]
  /-- Without an action nothing else is known than what was heard. -/
  unmerged : ∀ o, r.step.result = .advanced o → o.action = none →
    r.conversation.context = c.heard message d
  /-- With an action exactly the fields of the executor's reply, `a.delta`, are overwritten. -/
  merged : ∀ o a, r.step.result = .advanced o → o.action = some a →
    (∃ call, r.step.calls = [call] ∧ (e.executor around call).reply = .delta a.delta) ∧
    ∀ key, r.conversation.context.get? key =
      (Fields.get? a.delta.reverse key).or ((c.heard message d).get? key)
  /-- Unless the step advances, the same message is taken up again from the same state in the same
  context, by whatever engine `e'`. -/
  retried : (∀ o, r.step.result ≠ .advanced o) → ∀ e' m' around',
    (dispatch e' m' around' r.conversation message d).step =
      e'.step around' c.state (c.heard message d)
  /-- If neither the store nor the conditions have changed, `e'` selects the same transition. -/
  reselected : (∀ o, r.step.result ≠ .advanced o) → ∀ e' : Engine, e'.store = e.store →
    e'.conditions = e.conditions →
    e'.select r.conversation.state (r.conversation.heard message d) =
      e.select c.state (c.heard message d)

/-- A message that `Engine.dispatch` takes is handled at once, or not at all and can be sent again.
-/
theorem isAtomic_dispatch : e.IsAtomic around c message d (e.dispatch m around c message d) where
  stepped := e.dispatch_step m around c message d
  heard := c.heard_get? message d
  kept := by
    intro hnot
    rw [dispatch_conversation, Conversation.settle_of_not_advanced hnot]
    rfl
  moved := by
    intro o ho
    rw [dispatch_conversation, ho]
    rw [dispatch_step] at ho
    obtain ⟨i, t, _, ⟨_, rfl⟩ | ⟨a, changes, _, rfl, _⟩⟩ := advanced_cases ho
    · exact ⟨rfl, rfl, rfl, rfl⟩
    · exact ⟨rfl, rfl, rfl, rfl⟩
  unmerged := by
    intro o ho haction
    rw [dispatch_conversation, ho]
    simp [Conversation.settle, Conversation.advance, haction, Conversation.hear]
  merged := by
    intro o a ho haction
    constructor
    · rw [dispatch_step] at ho ⊢
      obtain ⟨i, t, _, ⟨_, rfl⟩ | ⟨b, changes, _, rfl, hcalls, hreply⟩⟩ := advanced_cases ho
      · simp at haction
      · obtain rfl := Option.some.inj haction
        exact ⟨callOf b (c.heard message d), hcalls, hreply⟩
    · intro key
      rw [dispatch_conversation, ho]
      simp [Conversation.settle, Conversation.advance, haction, Conversation.hear,
        Context.get?_merge]
  retried := by
    intro hnot e' m' around'
    rw [dispatch_conversation, Conversation.settle_of_not_advanced hnot, dispatch_step,
      c.heard_hear]
    rfl
  reselected := by
    intro hnot e' hstore hconditions
    rw [dispatch_conversation, Conversation.settle_of_not_advanced hnot, c.heard_hear]
    -- an engine with the same store and conditions differs in the executor only
    have hengine : e' = { e with executor := e'.executor } := by
      cases e'
      simp_all
    rw [hengine, select_withExecutor]
    rfl

end Engine

end Dunning
