import Dunning.Conversation.Id
import Dunning.Engine
import Dunning.Monitor.Basic
import Dunning.Routing

/-!
# Conversations

A conversation is a state, a context and the history of the transitions taken. A message first goes
into the context; then the engine takes a step, and only a step that advances changes anything else.
-/

namespace Dunning

/-- A transition that a conversation took. -/
structure TransitionRecord where
  source : String
  target : String
  /-- The name of the action that was carried out, if any, as `ActionOutcome.name` gives it. -/
  action : Option String
  time : Timestamp
deriving DecidableEq, Repr

/-- A conversation with a customer. -/
structure Conversation where
  id : String
  state : String
  context : Context
  /-- The transitions taken, oldest first. -/
  history : List TransitionRecord
  startedAt : Timestamp

namespace Conversation

/-- A conversation that begins in `state`, with `context` known already. -/
def start (around : Circumstances) (state : String) (context : Context := ∅) : Conversation where
  id := ConversationId.ofDigits around.token.toList
  state := state
  context := context
  history := []
  startedAt := around.now

/-- Sets the field `name` of the context. -/
def know (c : Conversation) (name : String) (value : Json) : Conversation :=
  { c with context := c.context.insert name value }

/-- Moves on by the transition of an `Outcome`. -/
def advance (c : Conversation) (now : Timestamp) (o : Outcome) : Conversation :=
  { c with
    state := o.target
    context := (o.action.map fun a => c.context.merge a.delta).getD c.context
    history := c.history ++ [⟨o.source, o.target, o.action.map (·.name), now⟩] }

/-- Feeds `message` through the engine `e`; the state moves with `advance` or stays. -/
def handle (c : Conversation) (e : Engine) (around : Circumstances) (message : String) :
    Conversation × Step :=
  let heard := { c with context := c.context.setMessage message }
  let step := e.step around heard.state heard.context
  match step.result with
  | .advanced outcome => (heard.advance around.now outcome, step)
  | .failed _ => (heard, step)
  | .abandoned => (heard, step)

/-- The context field that holds the intention of the latest message. -/
def intentionKey : String := "intencion"

/-- Stores the intention of `d` under `intentionKey`, if it has one. -/
def knowIntention (c : Conversation) (d : Decision) : Conversation :=
  match d.intention with
  | some intention => c.know intentionKey (.str intention)
  | none => c

/-- Stores the document number that `Document.extract?` finds in `message`, if it finds one. -/
def knowDocument (c : Conversation) (message : String) : Conversation :=
  match Document.extract? message with
  | some document => c.know Routing.documentKey (.str document)
  | none => c

end Conversation

/-- Whether a step answers the request; nothing is known of one that was `abandoned`. -/
def StepResult.success? : StepResult → Option Bool
  | .advanced _ => some true
  | .failed _ => some false
  | .abandoned => none

/-- What is left of a conversation and of the `Monitor` after a message was dispatched. -/
structure Dispatched where
  conversation : Conversation
  monitor : Monitor
  step : Step

namespace Engine

/-- Feeds `message` through the conversation under the decision `d` about it, and records the
outcome. An `abandoned` step is not recorded. -/
def dispatch (e : Engine) (m : Monitor) (around : Circumstances) (c : Conversation)
    (message : String) (d : Decision) : Dispatched :=
  let (conversation, step) := (c.knowIntention d).handle e around message
  let monitor :=
    match step.result.success? with
    | some success => m.record around.now ⟨d.tier, around.elapsedMs, success, d.confidence⟩
    | none => m
  { conversation, monitor, step }

/-- Dispatches a `line` that a customer typed: a document number in it is stored first, and the
decision is that of `Routing.route`. -/
def dispatchLine (e : Engine) (m : Monitor) (around : Circumstances) (c : Conversation)
    (line : String) : Dispatched :=
  e.dispatch m around (c.knowDocument line) line (Routing.route line)

end Engine

end Dunning
