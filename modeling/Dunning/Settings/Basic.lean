import Dunning.ConfigError
import Dunning.Flow.Definition
import Dunning.Monitor.Config
import Dunning.Text.Blank

/-!
# Settings

What an agent is started with. Every setting has a default.
-/

namespace Dunning

/-- Where an agent runs. -/
inductive Stage where
  | development
  | staging
  | production
deriving DecidableEq, Repr

namespace Stage

/-- All of them, in the order in which `ofTag?` looks. -/
def all : List Stage := [development, staging, production]

/-- The name in settings. -/
def tag : Stage → String
  | development => "development"
  | staging => "staging"
  | production => "production"

/-- The stage with a given `tag`. -/
def ofTag? (s : String) : Option Stage :=
  all.find? fun stage => stage.tag = s

/-- Whether it is `production`. -/
def isProduction (stage : Stage) : Bool :=
  stage = production

/-- Whether an agent refuses to start with a flow that uses unknown names: in `staging` and in
`production`. -/
def isStrict : Stage → Bool
  | development => false
  | staging => true
  | production => true

end Stage

/-- The settings of the engine. -/
structure EngineSettings where
  /-- The state in which conversations start. -/
  initialState : String := defaultInitialState
  /-- The file with the flow. -/
  flowPath : String := "config/flows/collections.yaml"
  /-- The time limit of an action. -/
  actionTimeoutSecs : Nat := 30
  /-- The file with query data, if there is any. -/
  queryDataPath : Option String := none
deriving DecidableEq, Repr

/-- The settings of the log. -/
structure LogSettings where
  level : String := "info"
  json : Bool := false
deriving DecidableEq, Repr

/-- All settings, in their sections; the monitor has its `MonitorConfig`. -/
structure Settings where
  stage : Stage := .development
  engine : EngineSettings := {}
  monitor : MonitorConfig := {}
  log : LogSettings := {}

/-! ## Reading -/

section
open RecordValue

variable {ν : Type} {m : Type → Type} [Monad m] [MonadExceptOf Unit m] [RecordValue ν m]

/-- Reads the `tag` of a stage. -/
def Stage.read? (value : ν) : m Stage := do
  orFail (ofTag? (← asCase? value))

/-- Reads the `EngineSettings`; absent ones have their defaults. -/
def EngineSettings.read? (value : ν) : m EngineSettings := do
  let d : EngineSettings := {}
  match ← fields? ["initial_state", "flow_definition_path", "action_timeout_secs",
    "query_data_path"] value with
  | [initial, flow, timeout, data] =>
    return {
      initialState := ← defaulted d.initialState asText? initial
      flowPath := ← defaulted d.flowPath asText? flow
      actionTimeoutSecs := ← defaulted d.actionTimeoutSecs asCount? timeout
      queryDataPath := ← optional asText? data }
  | _ => throw ()

/-- Reads the `LogSettings`; absent ones have their defaults. -/
def LogSettings.read? (value : ν) : m LogSettings := do
  let d : LogSettings := {}
  match ← fields? ["log_level", "log_json"] value with
  | [level, json] =>
    return {
      level := ← defaulted d.level asText? level
      json := ← defaulted d.json asBool? json }
  | _ => throw ()

/-- Reads all `Settings`; absent sections have their defaults. -/
def Settings.read? (value : ν) : m Settings := do
  match ← fields? ["environment", "engine", "monitor", "observability"] value with
  | [stage, engine, monitor, log] =>
    return {
      stage := ← defaulted .development Stage.read? stage
      engine := ← defaulted {} EngineSettings.read? engine
      monitor := ← defaulted {} MonitorConfig.read? monitor
      log := ← defaulted {} LogSettings.read? log }
  | _ => throw ()

end

/-! ## Writing -/

/-- Writes the `EngineSettings`. -/
def EngineSettings.toJson (s : EngineSettings) : Json :=
  .ofMembers [("initial_state", .str s.initialState), ("flow_definition_path", .str s.flowPath),
    ("action_timeout_secs", .nat s.actionTimeoutSecs),
    ("query_data_path", .ofOption .str s.queryDataPath)]

/-- Writes the `LogSettings`. -/
def LogSettings.toJson (s : LogSettings) : Json :=
  .ofMembers [("log_level", .str s.level), ("log_json", .bool s.json)]

/-- Writes all `Settings`. -/
def Settings.toJson (s : Settings) : Json :=
  .ofMembers [("environment", .str s.stage.tag), ("engine", s.engine.toJson),
    ("monitor", s.monitor.toJson), ("observability", s.log.toJson)]

/-! ## Checking -/

/-- Refuses `EngineSettings` with which an engine cannot work. -/
def EngineSettings.validate (s : EngineSettings) : Except ConfigError Unit :=
  if (Text.trimList s.initialState.toList).isEmpty then
    .error (.missingField "engine.initial_state")
  else if s.actionTimeoutSecs = 0 then
    .error (.invalidValue "engine.action_timeout_secs" "Must be at least 1 second")
  else .ok ()

/-- Refuses a share `x` that is not between zero and one; `field` names it in the error. -/
def checkShare (field : String) (x : Float) : Except ConfigError Unit :=
  if 0 ≤ x ∧ x ≤ 1 then .ok ()
  else
    let shown := Decimal.Layout.plain.text x
    .error (.invalidValue field s!"Must be between 0.0 and 1.0, got {shown}")

/-- Refuses a `MonitorConfig` with which the monitor cannot work. -/
def MonitorConfig.validate (c : MonitorConfig) : Except ConfigError Unit := do
  if c.windowCapacity = 0 then
    throw (.invalidValue "monitor.window_capacity" "Rolling windows need a capacity of at least 1")
  if c.alertDedupWindow = 0 then
    throw (.invalidValue "monitor.alert_dedup_window" "Must be at least 1")
  checkShare "monitor.high_error_rate" c.highErrorRate
  checkShare "monitor.low_ml_confidence" c.lowMlConfidence
  checkShare "monitor.low_cache_hit_rate" c.lowCacheHitRate
  if !Decimal.isFinite c.highResponseTimeMs ∨ c.highResponseTimeMs ≤ 0 then
    let shown := Decimal.Layout.plain.text c.highResponseTimeMs
    throw (.invalidValue "monitor.high_response_time_ms" s!"Must be positive, got {shown}")

/-- Refuses `Settings` with which an agent cannot work, the first section at fault first. -/
def Settings.validate (s : Settings) : Except ConfigError Unit := do
  s.engine.validate
  s.monitor.validate

end Dunning
