import Dunning.Action.QueryData
import Dunning.Action.Standard
import Dunning.Conversation.Basic
import Dunning.Flow.Load
import Dunning.Settings.Basic

/-!
# Starting an agent

An agent is put together once from its settings: the flow, the data that queries are answered from,
the actions and the conditions. Where a flow uses conditions or actions that nobody knows, an agent
starts all the same while it is being developed, and refuses to start otherwise.
-/

namespace Dunning

/-- Why an agent did not start. -/
inductive StartError where
  | config (cause : ConfigError)
  | queryData (cause : ActionError)
  | initialStateMismatch (configured flow : String)
  | unknownConditions (expressions : List String)
  | unknownActions (types : List String)
deriving DecidableEq, Repr

/-- The wording of a `StartError`. -/
def StartError.message : StartError → String
  | config cause => s!"Configuration error: {cause.message}"
  | queryData cause => s!"Query data error: {cause.message}"
  | initialStateMismatch configured flow =>
    "Configured initial state '" ++ configured ++ "' differs from the flow's '" ++ flow ++ "'"
  | unknownConditions expressions =>
    "Flow references unknown conditions: " ++ ", ".intercalate expressions
  | unknownActions types =>
    "Flow references unregistered action types: " ++ ", ".intercalate types

/-- Everything that a conversation needs. -/
structure Agent where
  settings : Settings
  table : FlowTable
  registry : Registry
  conditions : Evaluator

namespace Agent

/-- The context fields that conditions may ask for by name. -/
def flags : List String := ["cliente_encontrado"]

/-- The conditions that an agent knows: the built-in ones, and those for `flags`. -/
def standardConditions : Evaluator :=
  flags.foldl (fun ev name => (ev.registerFlag name).1) .empty

/-- The agent with the given parts. -/
def assemble (settings : Settings) (table : FlowTable) (backend : Option QueryBackend) : Agent where
  settings := settings
  table := table
  registry := (Registry.standard backend).withLimit settings.engine.actionTimeoutSecs
  conditions := standardConditions

/-- The `Engine` of the agent `a`. -/
def engine (a : Agent) : Engine where
  store := a.table.store
  executor := a.registry.execute
  conditions := a.conditions

/-- The condition expressions of the flow that are not known to `a.conditions`. -/
def unknownConditions (a : Agent) : List String :=
  a.table.expressions.filter fun e => !a.conditions.isKnown e

/-- The action types of the flow that `a.registry` cannot carry out. -/
def unknownActions (a : Agent) : List String :=
  a.table.actionTypes.filter fun t => !a.registry.has t

/-- Refuses the agent `a` if its flow uses unknown names, unless it is being developed. -/
def check (a : Agent) : Except StartError Unit :=
  if !a.settings.stage.isStrict then .ok ()
  else if !a.unknownConditions.isEmpty then .error (.unknownConditions a.unknownConditions)
  else if !a.unknownActions.isEmpty then .error (.unknownActions a.unknownActions)
  else .ok ()

/-- The backend that `settings` ask for. -/
def backend (files : Files) (settings : Settings) : Except StartError (Option QueryBackend) := do
  match settings.engine.queryDataPath with
  | none => return none
  | some path =>
    let tables ← (QueryTables.load files path).mapError .queryData
    return some tables.query

/-- Starts an agent from `settings`: loads, resolves, assembles and checks it. -/
def start (files : Files) (settings : Settings) : Except StartError Agent := do
  let definition ← (FlowDefinition.load files settings.engine.flowPath).mapError .config
  let table ← definition.resolve.mapError .config
  if definition.initialState ≠ settings.engine.initialState then
    throw (.initialStateMismatch settings.engine.initialState definition.initialState)
  let agent := assemble settings table (← backend files settings)
  agent.check
  return agent

/-- A new conversation at the first state of the flow. -/
def greet (a : Agent) (around : Circumstances) : Conversation :=
  .start around a.table.initialState

/-- The monitor of an agent that has seen nothing. -/
def monitor (a : Agent) : Monitor :=
  .empty a.settings.monitor

end Agent

end Dunning
