import Folio.Database.Migration
import Folio.Database.Pool
import Folio.Settings.Application

/-!
# Start-up

The steps from the command line to a server that listens. The first step that fails ends the
process; what was logged before stays logged.
-/

namespace Folio

/-- What is found behind the address of a database. -/
inductive DatabaseServer where
  | refusing (message : String)
  /-- A server that knows the applied versions and may fail on what is sent to it. -/
  | listening (failure? : Database.Migrations.Sent → Option String) (applied : List String)

/-- What start-up depends on. -/
structure Surroundings where
  args : List String
  env : Settings.Environment
  files : Settings.FileSystem
  /-- The server behind the address of a database. -/
  database : String → DatabaseServer
  /-- Whether a socket address can be listened on. -/
  isFree : Settings.SocketAddress → Bool

/-- Why the process ends before it listens. -/
inductive StartupError where
  | settings (cause : Settings.SettingsError)
  | address
  | session (cause : Settings.SessionError)
  | migration (cause : MigrationError)
  | pool (cause : PoolError)
  /-- A pool has to have room for a connection. -/
  | emptyPool
  | occupied (address : Settings.SocketAddress)
  deriving DecidableEq, Repr

namespace StartupError

/-- The wording of an error. -/
def message : StartupError → String
  | settings cause => cause.message
  | address => Settings.SocketAddress.refusal
  | session cause => cause.message
  | migration cause => cause.message
  | pool cause => cause.message
  | emptyPool => "max_size must be greater than zero!"
  | occupied _ => "Address already in use (os error 98)"

/-- The exit code of the process: an empty pool is a defect of the caller, all else a failure. -/
def exitCode : StartupError → UInt32
  | emptyPool => 101
  | _ => 1

end StartupError

/-- A step of start-up. -/
abbrev Startup (α : Type) := ExceptT StartupError (StateM (List LogEntry)) α

namespace Startup

/-- Adds entries to the log. -/
def log (entries : List LogEntry) : Startup Unit :=
  modify (· ++ entries)

/-- Goes on with a result, or ends with what `onError` makes of a failure. -/
def orStop {ε α : Type} (onError : ε → StartupError) : Except ε α → Startup α
  | .ok a => pure a
  | .error e => throw (onError e)

/-- Applies the pending migrations and logs them. -/
def migrate : DatabaseServer → Startup Unit
  | .refusing message => throw (.migration (.connect message))
  | .listening failure? applied => do
    let run := Database.Migrations.run failure? applied
    match run.error with
    | some e => throw (.migration e)
    | none =>
      log (run.applied.map fun m => ⟨.info, "applied migration", [("version", m.version)]⟩)

/-- Builds the connection pool. -/
def connect (settings : Settings.AppSettings) (url : String) (server : DatabaseServer) :
    Startup Unit := do
  let pool := (Database.PoolSettings.new url).withMaxSize settings.maxConnections
  if pool.maxSize = 0 then throw .emptyPool
  let reached : Database.Server := match server with
    | .refusing message => .refusing message
    | .listening _ _ => .listening
  let _ ← orStop .pool (Database.Pool.build pool reached)
  pure ()

/-- Prepares the stores: those of a database, or those in memory. -/
def openStores (surroundings : Surroundings) (settings : Settings.AppSettings) : Startup Unit :=
  match settings.databaseUrl with
  | some url => do
    let server := surroundings.database url
    migrate server
    connect settings url server
  | none =>
    log [⟨.warn, "DOCSHARE_DATABASE_URL not set; using in-memory repositories", []⟩]

/-- All steps: the address on which the server listens. -/
def steps (mode : Settings.BuildMode) (surroundings : Surroundings) :
    Startup Settings.SocketAddress := do
  let settings ← orStop .settings (Settings.AppSettings.load surroundings.env surroundings.args)
  let address ← match settings.address? with
    | some address => pure address
    | none => throw .address
  let (_, warnings) ← orStop .session
    (Settings.SessionSettings.load mode surroundings.env surroundings.files)
  log warnings
  openStores surroundings settings
  if !surroundings.isFree address then throw (.occupied address)
  log [⟨.info, "docshare listening", [("bind_addr", address.render)]⟩]
  pure address

/-- Starts up: where the server listens or why it does not, and the log. -/
def run (mode : Settings.BuildMode) (surroundings : Surroundings) :
    Except StartupError Settings.SocketAddress × List LogEntry :=
  StateT.run (ExceptT.run (steps mode surroundings)) []

end Startup

end Folio
