import Dunning.Proofs.Conversation.Atomicity
import Dunning.Session

/-!
# Lines that a customer types

Before a typed line is dispatched, what it tells is put into the context: a document number, the
intention, and the line itself. Then the conversation either stays where it is or takes one
transition; `takesLine_dispatchLine` lists the ways. What holds of a conversation after any number
of lines follows from what one line preserves, by `hearAll_invariant`.
-/

namespace Dunning

namespace Conversation

/-- What `c` knows once a typed line was heard. -/
def heardLine (c : Conversation) (line : String) : Context :=
  (c.knowDocument line).heard line (Routing.route line)

/-- The fields that `heardLine` can set. -/
def heardKeys : List String :=
  [Context.messageKey, intentionKey, Routing.documentKey]

/-- Hearing a line sets no fields but `heardKeys`. -/
theorem heardLine_get? (c : Conversation) (line : String) {key : String} (h : key ∉ heardKeys) :
    (c.heardLine line).get? key = c.context.get? key := by
  simp only [heardKeys, List.mem_cons, List.not_mem_nil, or_false, not_or] at h
  obtain ⟨hmessage, hintention, hdocument⟩ := h
  rw [heardLine, heard_get?, if_neg hmessage, if_neg hintention]
  unfold knowDocument
  cases Document.extract? line with
  | none => rfl
  | some document => exact Context.get?_insert_of_ne c.context (.str document) hdocument

end Conversation

namespace Engine

theorem dispatchLine_step (e : Engine) (m : Monitor) (around : Circumstances) (c : Conversation)
    (line : String) :
    (e.dispatchLine m around c line).step = e.step around c.state (c.heardLine line) := by
  rw [dispatchLine, dispatch_step]
  unfold Conversation.heardLine Conversation.knowDocument
  cases Document.extract? line <;> rfl

theorem dispatchLine_conversation (e : Engine) (m : Monitor) (around : Circumstances)
    (c : Conversation) (line : String) :
    (e.dispatchLine m around c line).conversation =
      { c with context := c.heardLine line }.settle around.now
        (e.dispatchLine m around c line).step.result := by
  rw [dispatchLine, dispatch_conversation]
  unfold Conversation.hear Conversation.heardLine Conversation.knowDocument
  cases Document.extract? line <;> rfl

/-- The ways in which a typed line can be taken by the engine `e`: how the step ends, and the
conversation after it. -/
inductive TakesLine (e : Engine) (around : Circumstances) (c : Conversation) (line : String) :
    StepResult → Conversation → Prop
  /-- The conversation stays where it is. -/
  | stays {result : StepResult} (h : ∀ o, result ≠ .advanced o) :
      TakesLine e around c line result { c with context := c.heardLine line }
  /-- It takes the transition `t` that has no action. -/
  | passes {i : Nat} {t : Transition} (chooses : e.Chooses c.state (c.heardLine line) i t)
      (haction : t.action = none) :
      TakesLine e around c line (.advanced ⟨c.state, t.target, i, none⟩)
        { c with
          state := t.target
          context := c.heardLine line
          history := c.history ++ [⟨c.state, t.target, none, around.now⟩] }
  /-- It takes the transition `t`, and its action `a` changes some fields. -/
  | acts {i : Nat} {t : Transition} {a : FlowAction} {changes : Fields Json}
      (chooses : e.Chooses c.state (c.heardLine line) i t) (haction : t.action = some a)
      (hreply : (e.executor around (callOf a (c.heardLine line))).reply = .delta changes) :
      TakesLine e around c line (.advanced ⟨c.state, t.target, i, some ⟨a.name, a.type, changes⟩⟩)
        { c with
          state := t.target
          context := (c.heardLine line).merge changes
          history := c.history ++ [⟨c.state, t.target, some a.name, around.now⟩] }

/-- Every line that `dispatchLine` dispatches is taken in one of the ways of `TakesLine`. -/
theorem takesLine_dispatchLine (e : Engine) (m : Monitor) (around : Circumstances)
    (c : Conversation) (line : String) :
    e.TakesLine around c line (e.dispatchLine m around c line).step.result
      (e.dispatchLine m around c line).conversation := by
  rw [dispatchLine_conversation, dispatchLine_step]
  rcases e.step_cases around c.state (c.heardLine line) with ⟨error, _, hstep⟩ |
    ⟨i, t, chooses, haction, hstep⟩ | ⟨i, t, a, chooses, haction, hstep⟩
  · rw [hstep]
    apply TakesLine.stays
    intro o
    simp
  · rw [hstep]
    exact .passes chooses haction
  · rw [hstep]
    cases hreply : (e.executor around (callOf a (c.heardLine line))).reply with
    | delta changes => exact .acts chooses haction hreply
    | failed cause =>
      apply TakesLine.stays
      intro o
      simp [resultOf]
    | abandoned =>
      apply TakesLine.stays
      intro o
      simp [resultOf]

/-- Dispatches typed lines one after another. -/
def hearAll (e : Engine) (m : Monitor) (c : Conversation) : List Heard → Monitor × Conversation
  | [] => (m, c)
  | h :: rest =>
    let d := e.dispatchLine m h.around c h.line
    e.hearAll d.monitor d.conversation rest

/-- What every line preserves, as `TakesLine` has it, holds after any number of lines. -/
theorem hearAll_invariant {e : Engine} {P : Conversation → Prop}
    (hline : ∀ {around c line result after}, P c → e.TakesLine around c line result after → P after)
    {c : Conversation} (hc : P c) (m : Monitor) (lines : List Heard) : P (e.hearAll m c lines).2 := by
  induction lines generalizing m c with
  | nil => exact hc
  | cons h rest ih =>
    have hafter := hline hc (e.takesLine_dispatchLine m h.around c h.line)
    exact ih hafter _

end Engine

/-! ## Sessions -/

namespace Session

variable {a : Agent} {P : Conversation → Prop} {Q : Circumstances → Prop}

/-- What every new conversation has and every line preserves holds of the present conversation,
whatever is typed. -/
theorem hear_invariant (hgreet : ∀ around, P (a.greet around))
    (hline : ∀ {around c line result after}, Q around → P c →
      a.engine.TakesLine around c line result after → P after)
    {s : Session} (hs : P s.conversation) {h : Heard} (hh : Q h.around) :
    P (s.hear a h).1.conversation := by
  unfold hear
  split
  -- a blank line and a summary leave the conversation, a command begins a new one
  · exact hs
  · exact hgreet h.around
  · exact hs
  · rename_i text _
    exact hline hh hs (a.engine.takesLine_dispatchLine s.monitor h.around s.conversation text)

theorem run_cons (s : Session) (h : Heard) (rest : List Heard) :
    (s.run a (h :: rest)).1 = ((s.hear a h).1.run a rest).1 := by
  rw [run]

theorem run_invariant (hgreet : ∀ around, P (a.greet around))
    (hline : ∀ {around c line result after}, Q around → P c →
      a.engine.TakesLine around c line result after → P after)
    {s : Session} (hs : P s.conversation) {lines : List Heard} (hlines : ∀ h ∈ lines, Q h.around) :
    P (s.run a lines).1.conversation := by
  induction lines generalizing s with
  | nil => exact hs
  | cons h rest ih =>
    have hhead := hear_invariant hgreet hline hs (hlines h List.mem_cons_self)
    rw [run_cons]
    exact ih hhead fun g hg => hlines g (List.mem_cons_of_mem _ hg)

end Session

end Dunning
