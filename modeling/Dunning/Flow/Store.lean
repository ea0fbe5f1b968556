import Dunning.Flow.Validation

/-!
# Flow stores

An engine sees a flow through a store: which states exist, and which transitions leave a state, in
the order in which they are to be tried. A store may fail to answer. A `FlowTable` holds a flow in
memory and never fails; it is built from definitions by putting names and records in place of
numbers.
-/

namespace Dunning

/-- Why a store could not answer. -/
inductive StoreError where
  | unavailable (message : String)
  | corrupt (message : String)
deriving DecidableEq, Repr

/-- The wording of a `StoreError`. -/
def StoreError.message : StoreError → String
  | unavailable message => s!"Flow definitions unavailable: {message}"
  | corrupt message => s!"Corrupt flow definition: {message}"

/-- A transition with its condition, action and target in place. -/
structure Transition where
  condition : Option FlowCondition
  action : Option FlowAction
  target : String

/-- Where an engine finds its flow: two questions, each of which may meet a `StoreError`. -/
structure FlowStore where
  initialState : String := defaultInitialState
  stateExists : String → Except StoreError Bool
  transitions : String → Except StoreError (List Transition)

/-- A flow in memory. -/
structure FlowTable where
  initialState : String
  states : List String
  /-- Each transition with the state that it leaves. -/
  edges : List (String × Transition)

/-- Texts in ascending order, each once. -/
def ascending (texts : List String) : List String :=
  Fields.names (Fields.ofList (texts.map (·, ())))

namespace FlowTable

/-- Whether `name` is one of the states. -/
def hasState (t : FlowTable) (name : String) : Bool :=
  t.states.contains name

/-- The transitions that leave `name`, in the order of `edges`. -/
def transitionsFrom (t : FlowTable) (name : String) : List Transition :=
  (t.edges.filter (·.1 = name)).map (·.2)

/-- The `FlowStore` that answers from the table. -/
def store (t : FlowTable) : FlowStore where
  initialState := t.initialState
  stateExists name := .ok (t.hasState name)
  transitions name := .ok (t.transitionsFrom name)

/-- The number of states. -/
def stateCount (t : FlowTable) : Nat :=
  t.states.eraseDups.length

/-- The number of transitions. -/
def transitionCount (t : FlowTable) : Nat :=
  t.edges.length

/-- The condition expressions on `edges`, by `ascending`. -/
def expressions (t : FlowTable) : List String :=
  ascending (t.edges.filterMap fun (_, e) => e.condition.map (·.expression))

/-- The action types on `edges`, by `ascending`. -/
def actionTypes (t : FlowTable) : List String :=
  ascending (t.edges.filterMap fun (_, e) => e.action.map (·.type))

/-- A table with nothing but `initialState`. -/
def start (initialState : String) : FlowTable :=
  ⟨initialState, [initialState], []⟩

/-- Adds the state `name`. -/
def addState (t : FlowTable) (name : String) : FlowTable :=
  { t with states := t.states ++ [name] }

/-- Adds `transition` after those there are, and the state `source`; its target need not be defined.
-/
def addTransition (t : FlowTable) (source : String) (transition : Transition) : FlowTable :=
  { t.addState source with edges := t.edges ++ [(source, transition)] }

end FlowTable

namespace FlowDefinition

/-- The name of the state numbered `id`. -/
def resolveState (d : FlowDefinition) (id : UInt32) : Except ConfigError String :=
  match d.stateName? id with
  | some name => .ok name
  | none => .error (.missingField s!"state id {id.toNat}")

/-- The condition numbered `id`. -/
def resolveCondition (d : FlowDefinition) (id : UInt32) : Except ConfigError FlowCondition :=
  match d.conditions.findRev? (·.id = id) with
  | some condition => .ok condition
  | none => .error (.missingField s!"condition id {id.toNat}")

/-- The action numbered `id`. -/
def resolveAction (d : FlowDefinition) (id : UInt32) : Except ConfigError FlowAction :=
  match d.actions.findRev? (·.id = id) with
  | some action => .ok action
  | none => .error (.missingField s!"action id {id.toNat}")

/-- The transition `t` with everything in place, and the state that it leaves. -/
def resolveTransition (d : FlowDefinition) (t : FlowTransition) :
    Except ConfigError (String × Transition) := do
  let source ← d.resolveState t.source
  let target ← d.resolveState t.target
  let condition ← t.condition.mapM d.resolveCondition
  let action ← t.action.mapM d.resolveAction
  return (source, { condition, action, target })

/-- The `FlowTable` that the definitions describe; a number that is defined more than once means its
last definition. -/
def resolve (d : FlowDefinition) : Except ConfigError FlowTable := do
  d.checkInitial
  let edges ← d.transitions.mapM d.resolveTransition
  return { initialState := d.initialState, states := d.states.map (·.name), edges }

end FlowDefinition

end Dunning
