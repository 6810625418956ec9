import Folio.Settings.CommandLine
import Folio.Settings.Session
import Folio.Settings.SocketAddress
import Folio.Settings.Value

/-!
# Application settings

Where the server listens and which database it uses. The command line wins over the environment,
and the environment over the defaults.
-/

namespace Folio.Settings

/-- The settings of the application. -/
structure AppSettings where
  bindAddress : String := "0.0.0.0:8080"
  databaseUrl : Option String := none
  maxConnections : Nat := 10
  deriving DecidableEq, Repr

/-- Why settings cannot be loaded. -/
inductive SettingsError where
  | commandLine
  | value (name : String)
  deriving DecidableEq, Repr

/-- The wording of an error. -/
def SettingsError.message : SettingsError → String
  | commandLine => "the command line is not valid"
  | value name => "the value of " ++ name ++ " has the wrong type"

/-- What the names of the variables start with. -/
def variableStart : String := "docshare_"

/-- The value of a setting in the environment. The case of the variable's name does not count. -/
def Environment.setting? (env : Environment) (name : String) : Option Value :=
  (env.reverse.find? fun entry => Text.asciiLower entry.1 = variableStart ++ name).map
    fun entry => Value.ofText entry.2

namespace AppSettings

variable {α : Type}

/-- A setting from the command line, else from the environment, else `none`. -/
def choose (argument : Option α) (env : Environment) (name : String) (read : Value → Option α) :
    Except SettingsError (Option α) :=
  match argument, env.setting? name with
  | some value, _ => .ok (some value)
  | none, none => .ok none
  | none, some value =>
    match read value with
    | some value => .ok (some value)
    | none => .error (.value name)

/-- Loads the settings from the environment and the command line. -/
def load (env : Environment) (args : List String) : Except SettingsError AppSettings :=
  match Arguments.parse? args with
  | none => .error .commandLine
  | some arguments => do
    let bindAddress ← choose arguments.bindAddress env "bind_addr" Value.asText?
    let databaseUrl ← choose arguments.databaseUrl env "database_url" Value.asText?
    let maxConnections ← choose arguments.maxConnections env "db_max_connections" Value.asNat32?
    let defaults : AppSettings := {}
    pure {
      bindAddress := bindAddress.getD defaults.bindAddress
      databaseUrl := databaseUrl
      maxConnections := maxConnections.getD defaults.maxConnections }

/-- Where the server listens, when the text is an address. -/
def address? (settings : AppSettings) : Option SocketAddress :=
  SocketAddress.parse? settings.bindAddress

end AppSettings

end Folio.Settings
