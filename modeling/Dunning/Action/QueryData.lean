import Dunning.Action.Query
import Dunning.Files
import Dunning.Yaml.Value

/-!
# Query data

The tables from which queries are answered, kept in YAML.
-/

namespace Dunning.QueryTables

/-- What the wording of an error begins with when query data cannot be understood. -/
def parseFailure : String := "Failed to parse query data"

/-- The tables that a YAML text writes. -/
def ofYaml (text : String) : Except ActionError QueryTables :=
  match Yaml.read? QueryTables.read? text with
  | none => .error (.unavailable parseFailure)
  | some tables => .ok tables

/-- The tables in the file at `path`. -/
def load (files : Files) (path : String) : Except ActionError QueryTables :=
  match files path with
  | .ok text => ofYaml text
  | .error error => .error (.unavailable s!"Failed to read query data: {error.message}")

end Dunning.QueryTables
