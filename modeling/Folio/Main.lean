import Folio.Json.Writer
import Folio.Startup

/-!
# The command

Starts up with the command line, the environment and the key file, and prints the log. No database
can be reached from here, and requests are answered by the host that calls `Http.App.respond`.
-/

namespace Folio.Command

/-- The environment variables that are read. -/
def variableNames : List String :=
  ["DOCSHARE_BIND_ADDR", "DOCSHARE_DATABASE_URL", "DOCSHARE_DB_MAX_CONNECTIONS",
   Settings.secureName, Settings.sameSiteName, Settings.ephemeralName, Settings.keyFileName]

/-- Reads the key file. -/
def readKeyFile (path : String) : IO (Except Settings.FileError (List UInt8)) := do
  try
    return .ok (← IO.FS.readBinFile path).toList
  catch
    | .noFileOrDirectory .. => return .error .notFound
    | .inappropriateType .. => return .error .isDirectory
    | cause => return .error (.other (toString cause))

/-- A log entry as a line of JSON. -/
def logLine (entry : LogEntry) : String :=
  let fields := ("message", entry.message) :: entry.fields
  (Json.object [
    ("level", .str entry.level.name),
    ("fields", .object (fields.map fun (name, value) => (name, .str value)))]).render

/-- Starts up and prints the log; the result is the exit code. -/
def start (args : List String) : IO UInt32 := do
  let env ← variableNames.filterMapM fun name => do
    return (← IO.getEnv name).map fun value => (name, value)
  let key ← readKeyFile (Settings.keyPath env)
  let surroundings : Surroundings :=
    { args, env
      files := fun _ => key
      database := fun _ => .refusing "no database can be reached"
      isFree := fun _ => true }
  let (result, log) := Startup.run .debug surroundings
  for entry in log do
    IO.println (logLine entry)
  match result with
  | .ok _ => return 0
  | .error e =>
    IO.eprintln ("Error: " ++ e.message)
    return e.exitCode

end Folio.Command

def main (args : List String) : IO UInt32 :=
  Folio.Command.start args
