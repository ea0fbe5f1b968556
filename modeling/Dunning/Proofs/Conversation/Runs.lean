import Dunning.Proofs.Conversation.Atomicity

/-!
# Runs of a conversation

A run is any number of turns over one flow. In a turn a message is handled, or the context is edited
from outside. Only the flow has to stay the same: a message is handled with the executor and the
conditions there are at the time. What a run preserves follows from what a turn preserves, by
`run_invariant`.
-/

namespace Dunning

/-- What can happen to a conversation. -/
inductive Turn where
  /-- The context is edited by any function `change`. -/
  | edit (change : Context → Context)
  /-- The message `text` is handled. -/
  | message (executor : Executor) (conditions : Evaluator) (around : Circumstances)
      (text : String)

namespace Conversation

/-- The conversation after a `Turn`, and the step that was taken if there was a message. -/
def turn (c : Conversation) (store : FlowStore) : Turn → Conversation × List Step
  | .edit change => ({ c with context := change c.context }, [])
  | .message executor conditions around text =>
    let (after, step) := c.handle { store, executor, conditions } around text
    (after, [step])

/-- The conversation after a number of turns, and the steps that were taken, in order. -/
def run (c : Conversation) (store : FlowStore) : List Turn → Conversation × List Step
  | [] => (c, [])
  | turn :: turns =>
    let (after, steps) := c.turn store turn
    let (last, later) := after.run store turns
    (last, steps ++ later)

variable (c : Conversation) (store : FlowStore)

@[simp] theorem turn_edit (change : Context → Context) :
    c.turn store (.edit change) = ({ c with context := change c.context }, []) := rfl

theorem turn_message (executor : Executor) (conditions : Evaluator) (around : Circumstances)
    (text : String) :
    c.turn store (.message executor conditions around text) =
      let step := { store, executor, conditions : Engine }.step around c.state
        (c.context.setMessage text)
      ({ c with context := c.context.setMessage text }.settle around.now step.result, [step]) := by
  simp only [turn, handle_eq]

@[simp] theorem run_nil : c.run store [] = (c, []) := rfl

theorem run_cons (turn : Turn) (turns : List Turn) :
    c.run store (turn :: turns) =
      (((c.turn store turn).1.run store turns).1,
        (c.turn store turn).2 ++ ((c.turn store turn).1.run store turns).2) := rfl

variable {c store}

/-- What every turn preserves (`P`) holds after a run, and what it gives for its step (`Q`) holds of
every step of the run. -/
theorem run_invariant {P : Conversation → Prop} {Q : Step → Prop}
    (hturn : ∀ c turn, P c → P (c.turn store turn).1 ∧ ∀ s ∈ (c.turn store turn).2, Q s)
    (hc : P c) (turns : List Turn) :
    P (c.run store turns).1 ∧ ∀ s ∈ (c.run store turns).2, Q s := by
  induction turns generalizing c with
  | nil => exact ⟨hc, by simp⟩
  | cons turn turns ih =>
    obtain ⟨hafter, hsteps⟩ := hturn c turn hc
    obtain ⟨hlast, hlater⟩ := ih hafter
    rw [run_cons]
    refine ⟨hlast, ?_⟩
    intro s hs
    rcases List.mem_append.1 hs with hs | hs
    · exact hsteps s hs
    · exact hlater s hs

end Conversation

end Dunning
