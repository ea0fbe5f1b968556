import Dunning.Session
import Dunning.Settings.Load
import Std.Time.DateTime.Timestamp

/-!
# The command line

Reads messages from standard input, one a line, and shows the replies of the agent. `/nueva` begins
a new conversation and `/resumen` shows the summary, which is also shown at the end of the input.
-/

open Dunning

/-- The text of the file at `path`, or why it has none. -/
def readText (path : String) : IO (Except FileError String) := do
  try
    return .ok (← IO.FS.readFile path)
  catch error =>
    return .error <|
      match error with
      | .noFileOrDirectory _ _ _ => .notFound
      | .inappropriateType _ _ _ => .isDirectory
      | .userError _ => .notText
      | _ => .notFound

/-- What is at `paths`; at any other path there is nothing. -/
def snapshot (paths : List String) : IO Files := do
  let texts ← paths.mapM fun path => do return (path, ← readText path)
  return fun path => (texts.lookup path).getD (.error .notFound)

/-- The names of the settings that a variable of the environment can give. -/
def variableNames : List String :=
  let sections := [("ENGINE", ["INITIAL_STATE", "FLOW_DEFINITION_PATH", "ACTION_TIMEOUT_SECS",
      "QUERY_DATA_PATH"]),
    ("MONITOR", MonitorConfig.fieldNames.map String.toUpper),
    ("OBSERVABILITY", ["LOG_LEVEL", "LOG_JSON"])]
  let names := sections.flatMap fun (name, fields) => fields.map fun field => name ++ "__" ++ field
  ("ENVIRONMENT" :: names).map ("COLLECTIONS_FLOW__" ++ ·)

/-- The variables of the environment among `variableNames`. -/
def overrides : IO (List (String × String)) :=
  variableNames.filterMapM fun name => do return (← IO.getEnv name).map (name, ·)

/-- The settings of `Settings.loadFrom`; the defaults if what is given cannot be used. -/
def loadSettings : IO Settings := do
  let environment ← IO.getEnv "COLLECTIONS_FLOW_ENV"
  let files ← snapshot (Settings.candidates Settings.defaultDirectory environment)
  match Settings.loadFrom files Settings.defaultDirectory environment (← overrides) with
  | .ok settings => return settings
  | .error error =>
    IO.eprintln s!"Warning: Failed to load config: {error.message}. Using defaults."
    return {}

/-- A fresh random number in 32 hexadecimal digits, marked as random in the usual places. -/
def freshToken : IO String := do
  let digits ← (List.range 32).mapM fun place => do
    let n ← IO.rand 0 15
    return Json.hexDigit (if place = 12 then 4 else if place = 16 then 8 + n % 4 else n)
  return String.ofList digits

/-- What the outside world supplies now. -/
def circumstances : IO Circumstances := do
  let nanos := (← Std.Time.Timestamp.now).toNanosecondsSinceUnixEpoch.val
  let seconds := nanos.fdiv 1000000000
  let now : Timestamp :=
    { day := seconds.fdiv 86400
      second := (seconds.fmod 86400).toNat
      nano := (nanos.fmod 1000000000).toNat }
  return { now, token := ← freshToken }

/-- Takes a line by `Session.hear`, and measures how long that takes. -/
def hear (agent : Agent) (session : Session) (line : String) : IO (Session × List String) := do
  let around ← circumstances
  let begun ← IO.monoNanosNow
  let (_, shown) := session.hear agent { around, line }
  let size := shown.foldl (fun size text => size + text.length) 0
  let ended ← IO.monoNanosNow
  let elapsedMs := Float.ofNat (if size = 0 then 0 else ended - begun) / 1000000
  return session.hear agent { around := { around with elapsedMs }, line }

/-- Takes lines up to the end of `input`. -/
partial def loop (agent : Agent) (input : IO.FS.Stream) (session : Session) : IO Session := do
  let line ← input.getLine
  if line.isEmpty then return session
  let (session, shown) ← hear agent session line
  shown.forM fun text => IO.println text
  loop agent input session

/-- Runs the agent. -/
def main : IO UInt32 := do
  let settings ← loadSettings
  let files ← snapshot (settings.engine.flowPath :: settings.engine.queryDataPath.toList)
  match Agent.start files settings with
  | .error error =>
    IO.eprintln s!"Error: {error.message}"
    return 1
  | .ok agent =>
    let session ← loop agent (← IO.getStdin) (Session.start agent (← circumstances))
    IO.println (session.summary (← circumstances))
    return 0
