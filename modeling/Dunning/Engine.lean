import Dunning.Action.Call
import Dunning.Condition.Evaluator
import Dunning.Flow.Store

/-!
# The engine

From a state and a context the engine takes the first transition whose condition holds, carries out
its action, and reports the state to go to. It holds no state of its own. Nothing is carried out
before it is certain that the target exists, and at most one action is carried out in a step.
-/

namespace Dunning

/-- Why a message did not advance a conversation. -/
inductive FlowError where
  | unknownState (name : String)
  | danglingTransition (source target : String)
  | noApplicableTransition (state : String)
  | action (state name : String) (cause : ActionError)
  | store (cause : StoreError)
deriving DecidableEq, Repr

namespace FlowError

/-- The wording of a `FlowError`. -/
def message : FlowError → String
  | unknownState name => s!"Unknown flow state: {name}"
  | danglingTransition source target => s!"Transition from {source} targets missing state {target}"
  | noApplicableTransition state => s!"No applicable transition from state {state}"
  | action state name cause => s!"Action {name} failed in state {state}: {cause.message}"
  | store cause => s!"Flow store error: {cause.message}"

/-- Whether the flow itself has to be mended: `unknownState` and `danglingTransition`. -/
def isConfiguration : FlowError → Bool
  | unknownState _ => true
  | danglingTransition _ _ => true
  | _ => false

/-- Whether no transition fitted the message: `noApplicableTransition`. -/
def isNoMatch : FlowError → Bool
  | noApplicableTransition _ => true
  | _ => false

/-- Whether the action of a transition failed. -/
def isAction : FlowError → Bool
  | action _ _ _ => true
  | _ => false

end FlowError

/-- The action of a transition that was taken. -/
structure ActionOutcome where
  name : String
  type : String
  delta : Fields Json

/-- A transition that was taken: the states before and after it, and its `ActionOutcome`. -/
structure Outcome where
  source : String
  target : String
  /-- The position among the transitions of the source. -/
  index : Nat
  action : Option ActionOutcome

/-- Whether `target` is another state than `source`. -/
def Outcome.changesState (o : Outcome) : Bool :=
  o.source ≠ o.target

/-- How a `Step` ended. -/
inductive StepResult where
  | advanced (outcome : Outcome)
  | failed (error : FlowError)
  | abandoned

/-- A step: the calls that were made, the effects they had, and how it ended. -/
structure Step where
  calls : List ActionCall
  effects : List String
  result : StepResult

/-- A `Transition` that was chosen, and its position. -/
structure Selection where
  index : Nat
  transition : Transition

/-- What there is to know about a `Transition` without a context. -/
structure TransitionInfo where
  condition : Option String
  action : Option String
  actionType : Option String
  target : String
  /-- Whether the condition can ever hold, as `Evaluator.isKnown` has it. -/
  conditionKnown : Bool
deriving DecidableEq, Repr

/-- A flow, something that carries out actions, and the meaning of conditions. -/
structure Engine where
  store : FlowStore
  executor : Executor
  conditions : Evaluator

namespace Engine

/-- An answer of the store, its `StoreError` turned into a `FlowError`. -/
def ask {α : Type} (answer : Except StoreError α) : Except FlowError α :=
  answer.mapError .store

/-- Whether `t` can be taken in `ctx`: its condition holds, or it has none. -/
def applies (e : Engine) (ctx : Context) (t : Transition) : Bool :=
  match t.condition with
  | none => true
  | some condition => e.conditions.evaluate condition.expression ctx

/-- The transition that a step from `state` would take: the first that `applies`. -/
def select (e : Engine) (state : String) (ctx : Context) : Except FlowError Selection := do
  if !(← ask (e.store.stateExists state)) then throw (.unknownState state)
  let transitions ← ask (e.store.transitions state)
  match transitions.zipIdx.find? fun (t, _) => e.applies ctx t with
  | some (transition, index) =>
    if !(← ask (e.store.stateExists transition.target)) then
      throw (.danglingTransition state transition.target)
    return { index, transition }
  | none => throw (.noApplicableTransition state)

/-- Takes the chosen transition `s`: its target is looked up, then its action is carried out. -/
def take (e : Engine) (around : Circumstances) (state : String) (ctx : Context) (s : Selection) :
    Step :=
  let outcome (action : Option ActionOutcome) : StepResult :=
    .advanced { source := state, target := s.transition.target, index := s.index, action }
  match s.transition.action with
  | none => { calls := [], effects := [], result := outcome none }
  | some action =>
    let call := { type := action.type, payload := action.payload, context := ctx }
    let execution := e.executor around call
    { calls := [call]
      effects := execution.effects
      result :=
        match execution.reply with
        | .delta delta => outcome (some { name := action.name, type := action.type, delta })
        | .failed cause => .failed (.action state action.name cause)
        | .abandoned => .abandoned }

/-- Takes the transition that `select` chooses. -/
def step (e : Engine) (around : Circumstances) (state : String) (ctx : Context) : Step :=
  match e.select state ctx with
  | .ok selection => e.take around state ctx selection
  | .error error => { calls := [], effects := [], result := .failed error }

/-- What there is to know about `t`. -/
def info (e : Engine) (t : Transition) : TransitionInfo where
  condition := t.condition.map (·.expression)
  action := t.action.map (·.name)
  actionType := t.action.map (·.type)
  target := t.target
  conditionKnown := t.condition.all fun condition => e.conditions.isKnown condition.expression

/-- The transitions of `state`, in the order in which `select` tries them. -/
def describe (e : Engine) (state : String) : Except FlowError (List TransitionInfo) := do
  if !(← ask (e.store.stateExists state)) then throw (.unknownState state)
  return (← ask (e.store.transitions state)).map e.info

end Engine

end Dunning
