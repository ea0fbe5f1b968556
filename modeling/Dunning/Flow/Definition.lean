import Dunning.Json.Record

/-!
# Flow definitions

A flow is four tables: states, conditions, actions, and the transitions between states, which refer
to the other tables by number. Transitions out of a state are tried in the order in which they
stand.
-/

namespace Dunning

/-- A named point of a conversation. -/
structure FlowState where
  id : UInt32
  name : String
deriving DecidableEq, Repr

/-- A condition that a `FlowTransition` may carry. -/
structure FlowCondition where
  id : UInt32
  expression : String
deriving DecidableEq, Repr

/-- An action that a `FlowTransition` may carry. -/
structure FlowAction where
  id : UInt32
  name : String
  /-- Names the effect. -/
  type : String
  /-- Configures the effect. -/
  payload : Json

/-- A transition between two states as it is stored, with numbers for `FlowState`, `FlowCondition`
and `FlowAction`. -/
structure FlowTransition where
  id : UInt32
  source : UInt32
  /-- A transition without a condition can always be taken. -/
  condition : Option UInt32
  action : Option UInt32
  target : UInt32
deriving DecidableEq, Repr

/-- The name of the first state, unless a flow says otherwise. -/
def defaultInitialState : String := "start"

/-- The four tables of a flow. -/
structure FlowDefinition where
  initialState : String := defaultInitialState
  states : List FlowState := []
  conditions : List FlowCondition := []
  actions : List FlowAction := []
  transitions : List FlowTransition := []

/-! ## Reading -/

section
open RecordValue

variable {ν : Type} {m : Type → Type} [Monad m] [MonadExceptOf Unit m] [RecordValue ν m]

/-- Reads a `FlowState`. -/
def FlowState.read? (value : ν) : m FlowState := do
  match ← fields? ["id", "name"] value with
  | [id, name] => return { id := ← required asId? id, name := ← required asText? name }
  | _ => throw ()

/-- Reads a `FlowCondition`. -/
def FlowCondition.read? (value : ν) : m FlowCondition := do
  match ← fields? ["id", "expression"] value with
  | [id, expression] =>
    return { id := ← required asId? id, expression := ← required asText? expression }
  | _ => throw ()

/-- Reads a `FlowAction`; an absent payload is `null`. -/
def FlowAction.read? (value : ν) : m FlowAction := do
  match ← fields? ["id", "name", "type", "payload"] value with
  | [id, name, type, payload] =>
    return {
      id := ← required asId? id
      name := ← required asText? name
      type := ← required asText? type
      payload := ← defaulted .null asJson? payload }
  | _ => throw ()

/-- Reads a `FlowTransition`. -/
def FlowTransition.read? (value : ν) : m FlowTransition := do
  match ← fields? ["id", "state_id", "condition_id", "action_id", "next_state_id"] value with
  | [id, source, condition, action, target] =>
    return {
      id := ← required asId? id
      source := ← required asId? source
      condition := ← optional asId? condition
      action := ← optional asId? action
      target := ← required asId? target }
  | _ => throw ()

/-- Reads a `FlowDefinition`; absent tables are empty. -/
def FlowDefinition.read? (value : ν) : m FlowDefinition := do
  match ← fields? ["initial_state", "states", "conditions", "actions", "transitions"] value with
  | [initial, states, conditions, actions, transitions] =>
    return {
      initialState := ← defaulted defaultInitialState asText? initial
      states := ← defaulted [] (asListOf? FlowState.read?) states
      conditions := ← defaulted [] (asListOf? FlowCondition.read?) conditions
      actions := ← defaulted [] (asListOf? FlowAction.read?) actions
      transitions := ← defaulted [] (asListOf? FlowTransition.read?) transitions }
  | _ => throw ()

end

/-! ## Writing -/

/-- A number of 32 bits. -/
def Json.ofId (id : UInt32) : Json :=
  .int id.toNat

/-- Writes a `FlowState`. -/
def FlowState.toJson (s : FlowState) : Json :=
  .ofMembers [("id", .ofId s.id), ("name", .str s.name)]

/-- Writes a `FlowCondition`. -/
def FlowCondition.toJson (c : FlowCondition) : Json :=
  .ofMembers [("id", .ofId c.id), ("expression", .str c.expression)]

/-- Writes a `FlowAction`. -/
def FlowAction.toJson (a : FlowAction) : Json :=
  .ofMembers [("id", .ofId a.id), ("name", .str a.name), ("type", .str a.type),
    ("payload", a.payload)]

/-- Writes a `FlowTransition`. -/
def FlowTransition.toJson (t : FlowTransition) : Json :=
  .ofMembers [("id", .ofId t.id), ("state_id", .ofId t.source),
    ("condition_id", .ofOption .ofId t.condition), ("action_id", .ofOption .ofId t.action),
    ("next_state_id", .ofId t.target)]

/-- Writes a `FlowDefinition`. -/
def FlowDefinition.toJson (d : FlowDefinition) : Json :=
  .ofMembers [("initial_state", .str d.initialState),
    ("states", .arr (d.states.map FlowState.toJson)),
    ("conditions", .arr (d.conditions.map FlowCondition.toJson)),
    ("actions", .arr (d.actions.map FlowAction.toJson)),
    ("transitions", .arr (d.transitions.map FlowTransition.toJson))]

end Dunning
