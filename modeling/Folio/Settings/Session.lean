import Folio.Http.Response
import Folio.Log
import Folio.Settings.Directory
import Folio.Text.Blank
import Folio.Text.Digits

/-!
# Session settings

How session cookies are marked and where their key comes from, read from environment variables and
a key file. A release build refuses what is missing or malformed; a debug build goes on with a
default and logs a warning.
-/

namespace Folio.Settings

/-- Environment variables. -/
abbrev Environment := List (String × String)

/-- How strict a build is. -/
inductive BuildMode where
  | debug
  | release
  deriving DecidableEq, Repr

/-- What is wrong with the session settings. -/
inductive SessionError where
  | missing (name : String)
  | invalid (name value expected : String)
  | keyRead (path : String) (cause : FileError)
  | keyTooShort (path : String) (length : Nat)
  | insecureSameSiteNone
  | ephemeralNotAllowed
  deriving DecidableEq, Repr

/-- The least number of bytes of a key file. -/
def keyLength : Nat := 64

/-- The wording of an error. -/
def SessionError.message : SessionError → String
  | missing name => "missing required environment variable: " ++ name
  | invalid name value expected =>
    "invalid value for " ++ name ++ "='" ++ value ++ "'; expected " ++ expected
  | keyRead path cause => "failed to read session key at " ++ path ++ ": " ++ cause.message
  | keyTooShort path length =>
    "session key at " ++ path ++ " too short: need >= " ++ toString keyLength ++ " bytes, got "
      ++ toString length
  | insecureSameSiteNone => "SESSION_SAMESITE=None requires SESSION_COOKIE_SECURE=1"
  | ephemeralNotAllowed => "SESSION_ALLOW_EPHEMERAL must be 0 in release builds"

/-- The key that session cookies are sealed with. -/
inductive SessionKey where
  /-- A key derived from the bytes of a file. -/
  | derived (bytes : List UInt8)
  /-- A key that was made up and lasts as long as the process. -/
  | generated
  deriving DecidableEq, Repr

/-- Valid session settings. -/
structure SessionSettings where
  policy : Http.CookiePolicy
  key : SessionKey
  deriving DecidableEq, Repr

/-- A computation that reads settings: it may fail, and it logs. -/
abbrev Reading := StateT (List LogEntry) (Except SessionError)

namespace Reading

variable {α : Type}

/-- Adds an entry to the log. -/
def log (entry : LogEntry) : Reading Unit :=
  modify (· ++ [entry])

/-- A debug build goes on with `fallback`, a release build fails. -/
def fallBack (mode : BuildMode) (fallback : α) (e : SessionError) : Reading α :=
  match mode with
  | .debug => do
    log ⟨.warn, "session setting fallback (debug build)", [("error", e.message)]⟩
    pure fallback
  | .release => throw e

end Reading

/-- Reads a truth value: a digit or an English word, in any case, with blanks around it. -/
def flag? (raw : String) : Option Bool :=
  let word := Text.asciiLower (Text.trim raw)
  if word ∈ ["1", "true", "yes", "y"] then some true
  else if word ∈ ["0", "false", "no", "n"] then some false
  else none

/-- Reads a policy by its name, in any case. -/
def sameSite? (raw : String) : Option Http.SameSite :=
  let word := Text.asciiLower raw
  if word = "lax" then some .lax
  else if word = "strict" then some .strict
  else if word = "none" then some .none
  else none

/-- The variable that says whether cookies are for secure connections only. -/
def secureName : String := "SESSION_COOKIE_SECURE"

/-- The variable that names the same-site policy. -/
def sameSiteName : String := "SESSION_SAMESITE"

/-- The variable that says whether a key may be made up. -/
def ephemeralName : String := "SESSION_ALLOW_EPHEMERAL"

/-- The variable that names the key file. -/
def keyFileName : String := "SESSION_KEY_FILE"

/-- The key file when no variable names one. -/
def defaultKeyFile : String := "/var/run/secrets/session_key"

/-- Reads a truth value from a variable. -/
def readFlag (mode : BuildMode) (env : Environment) (name : String) (fallback : Bool) :
    Reading Bool :=
  match env.lookup name with
  | none => Reading.fallBack mode fallback (.missing name)
  | some raw =>
    match flag? raw with
    | some value => pure value
    | none =>
      Reading.fallBack mode fallback (.invalid name raw "1|0|true|false|yes|no|y|n")

/-- Reads the same-site policy. Cookies for every site have to be secure. -/
def readSameSite (mode : BuildMode) (env : Environment) (secure : Bool) :
    Reading Http.SameSite :=
  match env.lookup sameSiteName with
  | none => Reading.fallBack mode .lax (.missing sameSiteName)
  | some raw =>
    match sameSite? raw with
    | some .none =>
      if secure then pure .none else Reading.fallBack mode .none .insecureSameSiteNone
    | some policy => pure policy
    | none => Reading.fallBack mode .lax (.invalid sameSiteName raw "Strict|Lax|None")

/-- The path of the key file. -/
def keyPath (env : Environment) : String :=
  (env.lookup keyFileName).getD defaultKeyFile

/-- Reads the key. -/
def readKey (mode : BuildMode) (env : Environment) (files : FileSystem) (ephemeral : Bool) :
    Reading SessionKey :=
  let path := keyPath env
  match files path with
  | .error cause =>
    if ephemeral then do
      Reading.log
        ⟨.warn, "using temporary session key", [("path", path), ("error", cause.message)]⟩
      pure .generated
    else Reading.fallBack mode .generated (.keyRead path cause)
  | .ok bytes =>
    if bytes.length < keyLength then
      Reading.fallBack mode .generated (.keyTooShort path bytes.length)
    else pure (.derived bytes)

/-- Reads the session settings, in the order in which their errors count. -/
def readSession (mode : BuildMode) (env : Environment) (files : FileSystem) :
    Reading SessionSettings := do
  let secure ← readFlag mode env secureName true
  let sameSite ← readSameSite mode env secure
  let ephemeral ← readFlag mode env ephemeralName false
  if ephemeral && mode == .release then throw .ephemeralNotAllowed
  let key ← readKey mode env files ephemeral
  pure ⟨⟨secure, sameSite⟩, key⟩

/-- The session settings, and the warnings on the way to them. -/
def SessionSettings.load (mode : BuildMode) (env : Environment) (files : FileSystem) :
    Except SessionError (SessionSettings × List LogEntry) :=
  (readSession mode env files).run []

end Folio.Settings
