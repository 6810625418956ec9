import Folio.Store.Error
import Folio.Text.Quoted
import Folio.Time.Duration

/-!
# Connection pools

How large a pool of database connections grows and how long a caller waits for one. A pool never
keeps more idle connections than it may have at all.
-/

namespace Folio.Database

/-- The settings of a connection pool. -/
structure PoolSettings where
  url : String
  maxSize : Nat
  minIdle : Option Nat
  /-- How long to wait for a connection. -/
  timeout : Time.Duration
  deriving DecidableEq, Repr

namespace PoolSettings

/-- The settings to start from. -/
def new (url : String) : PoolSettings := ⟨url, 10, some 2, .ofSeconds 30⟩

/-- A change of the settings. -/
inductive Step where
  | maxSize (size : Nat)
  | wait (duration : Time.Duration)
  deriving DecidableEq, Repr

/-- A wait of a number of milliseconds. -/
def Step.timeout (milliseconds : Nat) : Step := .wait (.ofMilliseconds milliseconds)

/-- Sets the largest size; the number of idle connections is cut down to it. -/
def withMaxSize (settings : PoolSettings) (size : Nat) : PoolSettings :=
  { settings with maxSize := size, minIdle := settings.minIdle.map (min · size) }

/-- Sets how long to wait for a connection. -/
def withTimeout (settings : PoolSettings) (duration : Time.Duration) : PoolSettings :=
  { settings with timeout := duration }

/-- Makes one change. -/
def apply (settings : PoolSettings) : Step → PoolSettings
  | .maxSize size => settings.withMaxSize size
  | .wait duration => settings.withTimeout duration

/-- Makes several changes, one after the other. -/
def applyAll (settings : PoolSettings) (steps : List Step) : PoolSettings :=
  steps.foldl apply settings

@[simp] theorem applyAll_nil (settings : PoolSettings) : settings.applyAll [] = settings := rfl

@[simp] theorem applyAll_cons (settings : PoolSettings) (step : Step) (rest : List Step) :
    settings.applyAll (step :: rest) = (settings.apply step).applyAll rest := rfl

/-- An optional number as the log shows it. -/
def optionText : Option Nat → String
  | some n => "Some(" ++ toString n ++ ")"
  | none => "None"

/-- The settings as the log shows them. -/
def describe (settings : PoolSettings) : String :=
  "PoolConfig \x7b database_url: " ++ Text.quoted settings.url
    ++ ", max_size: " ++ toString settings.maxSize
    ++ ", min_idle: " ++ optionText settings.minIdle
    ++ ", connection_timeout: " ++ settings.timeout.describe ++ " \x7d"

end PoolSettings

/-- Whether there is a server behind a database address. -/
inductive Server where
  | listening
  | refusing (message : String)
  deriving DecidableEq, Repr

/-- A pool of connections. -/
structure Pool where
  settings : PoolSettings
  deriving DecidableEq, Repr

/-- Opens the first connections of a pool. -/
def Pool.build (settings : PoolSettings) : Server → Except PoolError Pool
  | .listening => .ok ⟨settings⟩
  | .refusing message => .error (.build message)

end Folio.Database
