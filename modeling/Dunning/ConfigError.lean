/-!
# Configuration errors

What can be wrong with flow definitions and with settings.
-/

namespace Dunning

/-- Why a configuration was refused. -/
inductive ConfigError where
  | fileNotFound (path : String)
  | unreadable (reason : String)
  | missingField (name : String)
  | invalidValue (field message : String)
  | environment (message : String)
deriving DecidableEq, Repr

/-- The wording of a `ConfigError`. -/
def ConfigError.message : ConfigError → String
  | fileNotFound path => s!"Configuration file not found: {path}"
  | unreadable reason => s!"Failed to parse configuration: {reason}"
  | missingField name => s!"Missing required field: {name}"
  | invalidValue field message => s!"Invalid value for {field}: {message}"
  | environment message => s!"Environment error: {message}"

end Dunning
