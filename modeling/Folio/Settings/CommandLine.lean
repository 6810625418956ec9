import Folio.Text.Digits
import Folio.Text.Split

/-!
# The command line

Every argument is a flag with a value, attached with an equals sign or following on its own.
-/

namespace Folio.Settings

/-- What the command line sets. -/
structure Arguments where
  bindAddress : Option String := none
  databaseUrl : Option String := none
  maxConnections : Option Nat := none
  deriving DecidableEq, Repr

namespace Arguments

/-- Reads a number of 32 bits, with a sign or without. -/
def nat32? (raw : String) : Option Nat := do
  let n ← match raw.toList with
    | '+' :: digits => (Text.decimal? digits).map Int.ofNat
    | '-' :: digits => (Text.decimal? digits).map fun n => -(n : Int)
    | digits => (Text.decimal? digits).map Int.ofNat
  if 0 ≤ n ∧ n < 4294967296 then some n.toNat else none

/-- Sets what a flag stands for. No flag may be given twice. -/
def set? (arguments : Arguments) (flag value : String) : Option Arguments :=
  if flag = "--bind-addr" ∧ arguments.bindAddress.isNone then
    some { arguments with bindAddress := some value }
  else if flag = "--database-url" ∧ arguments.databaseUrl.isNone then
    some { arguments with databaseUrl := some value }
  else if flag = "--db-max-connections" ∧ arguments.maxConnections.isNone then
    (nat32? value).map fun n => { arguments with maxConnections := some n }
  else none

/-- Whether an argument can be the value of the flag before it. -/
def isValue (argument : String) : Bool :=
  argument.toList.head? ≠ some '-' || argument == "-"

/-- Reads the arguments that are left. Two hyphens may end them. -/
def parseFrom? (arguments : Arguments) : List String → Option Arguments
  | [] => some arguments
  | ["--"] => some arguments
  | argument :: rest =>
    match Text.splitFirst (· == '=') argument.toList with
    | (flag, some value) => do
      parseFrom? (← arguments.set? (String.ofList flag) (String.ofList value)) rest
    | (_, none) =>
      match rest with
      | value :: rest =>
        if isValue value then do parseFrom? (← arguments.set? argument value) rest else none
      | [] => none

/-- Reads the command line, without the name of the program. -/
def parse? (args : List String) : Option Arguments :=
  parseFrom? {} args

end Arguments

end Folio.Settings
