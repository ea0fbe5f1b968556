import Dunning.Files
import Dunning.Settings.Basic
import Dunning.Settings.Source
import Dunning.Toml.Document

/-!
# Loading settings

Settings are laid over each other in three layers: the default file of a directory, the file of the
environment's name, and the variables of the environment. Files may be missing.

A file is read in one of three formats (`Format`), by its extension (`extensions`): TOML, JSON or
YAML, in which the program's own files are written. The other formats that its library knows by
default, INI, RON and JSON5, are left out here: a file with the extension `ini`, `ron` or `json5` is
neither looked for nor read, so a directory is taken to hold none.
-/

namespace Dunning.Settings

/-- A way to write settings in a file; INI, RON and JSON5 are left out. -/
inductive Format where
  | toml
  | json
  | yaml
deriving DecidableEq, Repr

/-- Extensions of file names, in the order in which `find?` tries them; `ini`, `ron` and `json5` are
left out with their formats. -/
def extensions : List (String × Format) :=
  [("toml", .toml), ("json", .json), ("yaml", .yaml), ("yml", .yaml)]

/-- The entries that a text gives in a `Format`. -/
def Format.read? : Format → String → Option (Fields Setting)
  | toml => Toml.read?
  | json => Setting.readJson?
  | yaml => Setting.readYaml?

/-- The extension of `path`: what follows the last dot of its last name, unless the name begins with
that dot. -/
def extension (path : String) : Option String :=
  let name := path.toList.reverse.takeWhile (· ≠ '/')
  let ext := name.takeWhile (· ≠ '.')
  match name.drop ext.length with
  | _ :: _ :: _ => some (String.ofList ext.reverse)
  | _ => none

/-- The rest of a path, written backwards, once its end is a name: slashes and single dots give
way. -/
def endingInName : List Char → List Char
  | '/' :: rest => endingInName rest
  | '.' :: '/' :: rest => endingInName rest
  | ['.'] => []
  | backwards => backwards

/-- A path with an extension after its last name. What stands for no name at its end gives way
(`endingInName`); two dots have no name to extend. -/
def withExtension? (path ext : String) : Option String :=
  let backwards := endingInName path.toList.reverse
  let name := backwards.takeWhile (· ≠ '/')
  if name = [] ∨ name = ['.', '.'] then none
  else some (String.ofList backwards.reverse ++ "." ++ ext)

/-- The paths at which the settings file `name` is looked for when there is no file at the path
`name` itself. -/
def extended (name : String) : List (Format × String) :=
  extensions.filterMap fun (ext, format) => (withExtension? name ext).map (format, ·)

/-- What stands at `path`: nothing, or a file, whose text may be unreadable. -/
def file? (files : Files) (path : String) : Option (Option String) :=
  match files path with
  | .ok text => some (some text)
  | .error .notText => some none
  | .error _ => none

/-- The text of a settings file and the way it is written. The name may be a file's full name, or
lack the extension, as in `extended`. -/
def find? (files : Files) (name : String) : Option (Format × String) :=
  match file? files name with
  | some text? => do some (← extensions.lookup (← extension name), ← text?)
  | none => do
    let (format, text?) ← (extended name).findSome? fun (format, path) =>
      (file? files path).map (format, ·)
    some (format, ← text?)

/-- The entries of the settings file that `find?` finds, none if it is missing. -/
def readFile (files : Files) (name : String) : Except ConfigError (Fields Setting) :=
  match find? files name with
  | none => .ok []
  | some (format, text) =>
    match format.read? text with
    | some entries => .ok entries
    | none => .error (.unreadable s!"Failed to read {name}")

/-- The settings that `layers` give together, if they pass `Settings.validate`. -/
def ofLayers (layers : List (Fields Setting)) : Except ConfigError Settings := do
  match Settings.read? (Setting.merged layers) with
  | none => throw (.unreadable "A setting has a value that it cannot have")
  | some settings =>
    settings.validate
    return settings

/-- The names of the settings files in `directory`, later ones over earlier ones. -/
def fileNames (directory : String) (environment : Option String) : List String :=
  ("default" :: environment.toList).map fun name => directory ++ "/" ++ name

/-- Every path at which the files of `fileNames` are looked for. -/
def candidates (directory : String) (environment : Option String) : List String :=
  (fileNames directory environment).flatMap fun name =>
    name :: (extended name).map fun (_, path) => path

/-- The settings of `directory`, of `environment` if one is named, and of overriding variables. -/
def loadFrom (files : Files) (directory : String) (environment : Option String)
    (overrides : List (String × String)) : Except ConfigError Settings := do
  let layers ← (fileNames directory environment).mapM (readFile files)
  ofLayers (layers ++ [Setting.ofVariables overrides])

/-- The directory of settings files, unless another one is named. -/
def defaultDirectory : String := "config"

end Dunning.Settings
