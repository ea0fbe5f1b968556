import Dunning.Json.Reader
import Dunning.Settings.Layer
import Dunning.Yaml.Strict.Value

/-!
# Where settings come from

Each place gives the entries of a table: a JSON text, a YAML text, or the variables of the
environment. Settings are written in strict YAML, flows and query data are not, so one spelling can
mean two things.
-/

namespace Dunning.Setting

/-! ## JSON -/

mutual

/-- The setting that a JSON value gives; whole numbers beyond 64 signed bits become doubles. -/
def ofJson : Json → Setting
  | .null => absent
  | .bool b => flag b
  | .num (.whole n) => if Decimal.fits64 n then whole n else double (Number.whole n).toFloat
  | .num (.double x) => double x
  | .str s => text s
  | .arr items => list (ofJsonItems items)
  | .obj members => table (ofJsonMembers members)

/-- The settings that JSON values give, each by `ofJson`. -/
def ofJsonItems : List Json → List Setting
  | [] => []
  | item :: items => ofJson item :: ofJsonItems items

/-- The settings that the members of an object give, each by `ofJson`. -/
def ofJsonMembers : List (String × Json) → List (String × Setting)
  | [] => []
  | (name, value) :: members => (name, ofJson value) :: ofJsonMembers members

end

/-- The entries of a `table`. -/
def asTable? : Setting → Option (Fields Setting)
  | table entries => some entries
  | _ => none

/-- The entries that a JSON text gives, by `ofJson`. -/
def readJson? (s : String) : Option (Fields Setting) :=
  (Json.ofText? s).bind fun value => (ofJson value).asTable?

/-! ## YAML -/

/-- The name that a key gives: a text, or the digits of a whole number. -/
def keyName? : Yaml.Strict.Value → Option String
  | .text s => some s
  | .whole n => some (String.ofList (Decimal.intText n))
  | _ => none

mutual

/-- The setting that a YAML value gives; none if a double in it has a spelling of its own, or a key
is neither a text nor a whole number. -/
def ofYaml? : Yaml.Strict.Value → Option Setting
  | .missing | .null => some absent
  | .flag b => some (flag b)
  | .whole n => some (whole n)
  | .double spelling => (Decimal.ofText? spelling).map double
  | .text s => some (text s)
  | .list items => (ofYamlItems? items).map list
  | .mapping entries => (ofYamlEntries? entries).map fun named => table (Fields.ofList named)

/-- The settings that YAML values give, each by `ofYaml?`. -/
def ofYamlItems? : List Yaml.Strict.Value → Option (List Setting)
  | [] => some []
  | item :: items => do
    let item ← ofYaml? item
    return item :: (← ofYamlItems? items)

/-- The settings that the entries of a mapping give, their names by `keyName?`. -/
def ofYamlEntries? : List (Yaml.Strict.Value × Yaml.Strict.Value) → Option (List (String × Setting))
  | [] => some []
  | (key, value) :: entries => do
    let name ← keyName? key
    let value ← ofYaml? value
    return (name, value) :: (← ofYamlEntries? entries)

end

/-- The entries that a YAML text gives, by `ofYaml?`; a text without a document gives none. -/
def readYaml? (s : String) : Option (Fields Setting) := do
  match ← Yaml.Strict.value? s with
  | none => some []
  | some value => (ofYaml? value).bind asTable?

/-! ## The environment -/

/-- What the names of variables that give settings begin with, in lower case. -/
def variableStart : String := "collections_flow__"

/-- Puts a point for each two underscores, from left to right. -/
def pointed : List Char → List Char
  | '_' :: '_' :: rest => '.' :: pointed rest
  | c :: rest => c :: pointed rest
  | [] => []

/-- The setting that a variable's text gives: a truth value, a number or a text. -/
def ofVariable (s : String) : Setting :=
  if Text.lower s = "true" then flag true
  else if Text.lower s = "false" then flag false
  else
    match int64? s, Decimal.ofText? s with
    | some n, _ => whole n
    | none, some x => double x
    | none, none => text s

/-- The entries that variables give, by the rest of their names after `variableStart`. -/
def ofVariables (overrides : List (String × String)) : Fields Setting :=
  Fields.ofList (overrides.filterMap fun (name, value) =>
    let cs := (Text.lower name).toList
    let start := variableStart.toList
    if start.isPrefixOf cs then
      some (String.ofList (pointed (cs.drop start.length)), ofVariable value)
    else none)

end Dunning.Setting
