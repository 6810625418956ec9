import Folio.Settings.Session

/-!
# The policy of session settings

A release build makes four demands on the environment and the key file and fails with the error of
the first that is not met; a debug build never fails and gives what the release build gives whenever
that gives anything (`session_policy`).
-/

namespace Folio.Settings

variable {α β : Type} {env : Environment} {files : FileSystem} {name raw : String}

/-! ### What the variables spell -/

/-- The words for a truth value. -/
def flagWords : Bool → List String
  | true => ["1", "true", "yes", "y"]
  | false => ["0", "false", "no", "n"]

/-- A text spells a truth value: one of its words, in any case and with blanks around it. -/
def SpellsFlag (raw : String) (value : Bool) : Prop :=
  Text.asciiLower (Text.trim raw) ∈ flagWords value

/-- A text spells a policy: its name, in any case. -/
def SpellsSameSite (raw : String) (policy : Http.SameSite) : Prop :=
  Text.asciiLower raw = Text.asciiLower policy.name

theorem flag_eq_some_iff {value : Bool} : flag? raw = some value ↔ SpellsFlag raw value := by
  unfold flag? SpellsFlag
  generalize Text.asciiLower (Text.trim raw) = word
  have apart : ∀ word ∈ flagWords true, word ∉ flagWords false := by decide
  change (if word ∈ flagWords true then some true
    else if word ∈ flagWords false then some false else none) = some value ↔ _
  split
  · rename_i yes
    cases value with
    | true => simp [yes]
    | false => simp [apart word yes]
  · rename_i notYes
    cases value with
    | true => simp [notYes]
    | false => simp

theorem sameSite_eq_some_iff {policy : Http.SameSite} :
    sameSite? raw = some policy ↔ SpellsSameSite raw policy := by
  have lax : Text.asciiLower Http.SameSite.lax.name = "lax" := by decide
  have strict : Text.asciiLower Http.SameSite.strict.name = "strict" := by decide
  have none : Text.asciiLower Http.SameSite.none.name = "none" := by decide
  unfold sameSite? SpellsSameSite
  generalize Text.asciiLower raw = word
  dsimp only
  cases policy with
  | lax => grind
  | strict => grind
  | none => grind

/-- A variable is set to a truth value. -/
def Flags (env : Environment) (name : String) (value : Bool) : Prop :=
  ∃ raw, env.lookup name = some raw ∧ SpellsFlag raw value

/-- What is wrong with a variable that is not set to any truth value. -/
inductive FlagFault (env : Environment) (name : String) : SessionError → Prop
  | missing : env.lookup name = none → FlagFault env name (.missing name)
  | invalid {raw : String} : env.lookup name = some raw → (∀ value, ¬SpellsFlag raw value) →
      FlagFault env name (.invalid name raw "1|0|true|false|yes|no|y|n")

/-- What a release build demands of the environment and the key file. -/
inductive Demand where
  | secure
  | sameSite
  | ephemeral
  | key

namespace Demand

/-- What is wrong when a demand is not met. -/
inductive Fault (env : Environment) (files : FileSystem) : Demand → SessionError → Prop
  | secure {e : SessionError} : FlagFault env secureName e → Fault env files .secure e
  | sameSiteMissing : env.lookup sameSiteName = none →
      Fault env files .sameSite (.missing sameSiteName)
  | sameSiteInvalid {raw : String} : env.lookup sameSiteName = some raw →
      (∀ policy, ¬SpellsSameSite raw policy) →
      Fault env files .sameSite (.invalid sameSiteName raw "Strict|Lax|None")
  | sameSiteInsecure {raw : String} : env.lookup sameSiteName = some raw →
      SpellsSameSite raw .none → Flags env secureName false →
      Fault env files .sameSite .insecureSameSiteNone
  | ephemeral {e : SessionError} : FlagFault env ephemeralName e → Fault env files .ephemeral e
  | ephemeralAllowed : Flags env ephemeralName true →
      Fault env files .ephemeral .ephemeralNotAllowed
  | keyUnreadable {cause : FileError} : files (keyPath env) = .error cause →
      Fault env files .key (.keyRead (keyPath env) cause)
  | keyShort {bytes : List UInt8} : files (keyPath env) = .ok bytes → bytes.length < keyLength →
      Fault env files .key (.keyTooShort (keyPath env) bytes.length)

end Demand

/-- The settings that the environment and the key file prescribe. -/
structure Prescribed (env : Environment) (files : FileSystem) (settings : SessionSettings) :
    Prop where
  secure : Flags env secureName settings.policy.secure
  sameSite : ∃ raw, env.lookup sameSiteName = some raw ∧
    SpellsSameSite raw settings.policy.sameSite
  guarded : settings.policy.sameSite = .none → settings.policy.secure = true
  ephemeral : Flags env ephemeralName false
  key : ∃ bytes, files (keyPath env) = .ok bytes ∧ keyLength ≤ bytes.length ∧
    settings.key = .derived bytes

theorem flags_unique {one other : Bool} (flags : Flags env name one)
    (again : Flags env name other) : one = other := by
  obtain ⟨raw, set, spells⟩ := flags
  obtain ⟨raw', set', spells'⟩ := again
  rw [set] at set'
  cases set'
  have same := (flag_eq_some_iff.mpr spells).symm.trans (flag_eq_some_iff.mpr spells')
  exact Option.some.inj same

namespace Demand

variable {demand : Demand} {e e' : SessionError} {settings : SessionSettings}

end Demand

theorem Prescribed.unique {settings settings' : SessionSettings}
    (prescribed : Prescribed env files settings) (also : Prescribed env files settings') :
    settings = settings' := by
  obtain ⟨⟨secure, policy⟩, key⟩ := settings
  obtain ⟨⟨secure', policy'⟩, key'⟩ := settings'
  obtain ⟨flags, ⟨raw, set, spells⟩, _, _, bytes, read, _, derived⟩ := prescribed
  obtain ⟨flags', ⟨raw', set', spells'⟩, _, _, bytes', read', _, derived'⟩ := also
  dsimp only at *
  rw [set] at set'
  rw [read] at read'
  cases set'
  cases read'
  have samePolicy := (sameSite_eq_some_iff.mpr spells).symm.trans (sameSite_eq_some_iff.mpr spells')
  rw [flags_unique flags flags', Option.some.inj samePolicy, derived, derived']

/-! ### Reading step by step -/

namespace Reading

/-- A computation that logs nothing ends with a value or an error of given kinds. -/
def Decides (r : Reading α) (good : α → Prop) (bad : SessionError → Prop) : Prop :=
  ∀ log, (∃ a, r.run log = .ok (a, log) ∧ good a) ∨ ∃ e, r.run log = .error e ∧ bad e

/-- A computation ends with a value of a given kind. -/
def Gives (r : Reading α) (good : α → Prop) : Prop :=
  ∀ log, ∃ a log', r.run log = .ok (a, log') ∧ good a

variable {r lenient strict : Reading α} {f lenientRest strictRest : α → Reading β}

end Reading

open Reading

/-- Cookies for every site, with a key of just enough bytes. -/
def embedded : Environment :=
  [(secureName, " Yes "), (sameSiteName, "NONE"), (ephemeralName, "n"), (keyFileName, "key")]

end Folio.Settings
