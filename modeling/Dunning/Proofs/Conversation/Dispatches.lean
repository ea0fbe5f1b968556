import Dunning.Proofs.Conversation.Atomicity

/-!
# Dispatching one message after another

Each message is dispatched to where the one before it has left the conversation and the monitor.
What holds of every step of an engine holds of every step of such a sequence.
-/

namespace Dunning

/-- A message with the decision about it, and what the outside world supplies for it. -/
structure Said where
  around : Circumstances
  message : String
  decision : Decision

namespace Engine

/-- Dispatches messages one after another, by `Engine.dispatch`; returns what is left after each of
them. -/
def dispatchAll (e : Engine) (m : Monitor) (c : Conversation) : List Said → List Dispatched
  | [] => []
  | s :: rest =>
    let d := e.dispatch m s.around c s.message s.decision
    d :: e.dispatchAll d.monitor d.conversation rest

/-- Every step of `dispatchAll` is a step of the engine from some state in some context. -/
theorem step_of_mem_dispatchAll {e : Engine} {m : Monitor} {c : Conversation} {said : List Said}
    {d : Dispatched} (h : d ∈ e.dispatchAll m c said) :
    ∃ around state ctx, d.step = e.step around state ctx := by
  induction said generalizing m c with
  | nil => cases h
  | cons s rest ih =>
    rcases List.mem_cons.1 h with rfl | hlater
    · exact ⟨s.around, c.state, _, e.dispatch_step m s.around c s.message s.decision⟩
    · exact ih hlater

end Engine

end Dunning
