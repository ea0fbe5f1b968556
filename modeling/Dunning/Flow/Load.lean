import Dunning.Files
import Dunning.Flow.Validation
import Dunning.Yaml.Value

/-!
# Loading flow definitions

Flow definitions are kept in YAML. What is loaded is always checked.
-/

namespace Dunning.FlowDefinition

/-- The definitions that a YAML `text` writes, if they pass `validate`. -/
def ofYaml (text : String) : Except ConfigError FlowDefinition := do
  match Yaml.read? FlowDefinition.read? text with
  | none => throw (.unreadable "Failed to parse flow file")
  | some d =>
    d.validate
    return d

/-- The definitions in the file at `path`, read by `ofYaml`. -/
def load (files : Files) (path : String) : Except ConfigError FlowDefinition :=
  match files path with
  | .ok text => ofYaml text
  | .error error =>
    if error.isPresent then .error (.unreadable s!"Failed to read flow file: {error.message}")
    else .error (.fileNotFound path)

end Dunning.FlowDefinition
