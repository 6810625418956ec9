import Folio.Json
import Folio.Json.Shortest
import Folio.Text.Quoted

/-!
# Reading domain values from JSON

`DecodeError` names what can be wrong with a JSON value that should be a record, and
`DecodeError.message` words it.
-/

namespace Folio.Json

/-- Why a JSON value is refused. -/
inductive DecodeError where
  /-- A value of another kind was expected. -/
  | invalidType (got : Json) (want : String)
  /-- The kind is right and the value is not. -/
  | invalidValue (got want : String)
  | missingField (name : String)
  | duplicateField (name : String)
  | unknownField (name : String) (known : List String)
  | unknownVariant (name : String) (known : List String)
  | invalidLength (length : Nat) (want : String)
  /-- The domain refuses the value. -/
  | refused (reason : String)
  deriving Inhabited

/-- A name between backticks. -/
def ticked (name : String) : String :=
  "`" ++ name ++ "`"

/-- A value as an error message describes it. -/
def describe : Json → String
  | .null => "null"
  | .bool value => "boolean " ++ ticked (if value then "true" else "false")
  | .int value => "integer " ++ ticked (toString value)
  | .float bits => "floating point " ++ ticked (Shortest.plainText bits)
  | .str value => "string " ++ Text.quoted value
  | .arr _ => "sequence"
  | .obj _ => "map"

/-- The wording of an error. -/
def DecodeError.message : DecodeError → String
  | invalidType got want => "invalid type: " ++ describe got ++ ", expected " ++ want
  | invalidValue got want => "invalid value: " ++ got ++ ", expected " ++ want
  | missingField name => "missing field " ++ ticked name
  | duplicateField name => "duplicate field " ++ ticked name
  | unknownField name known =>
    "unknown field " ++ ticked name ++ ", expected " ++ " or ".intercalate (known.map ticked)
  | unknownVariant name known =>
    "unknown variant " ++ ticked name ++ ", expected one of "
      ++ ", ".intercalate (known.map ticked)
  | invalidLength length want => "invalid length " ++ toString length ++ ", expected " ++ want
  | refused reason => reason

/-- A text. -/
def asString : Json → Except DecodeError String
  | .str value => .ok value
  | other => .error (.invalidType other "a string")

/-- A truth value. -/
def asBool : Json → Except DecodeError Bool
  | .bool value => .ok value
  | other => .error (.invalidType other "a boolean")

/-- A text, or nothing when null. -/
def asOptionalString : Json → Except DecodeError (Option String)
  | .null => .ok none
  | other => (asString other).map some

/-- An integer of 64 bits with a sign. -/
def asInt64 : Json → Except DecodeError Int
  | .int value =>
    if -9223372036854775808 ≤ value ∧ value ≤ 9223372036854775807 then .ok value
    else .error (.invalidValue ("integer " ++ ticked (toString value)) "i64")
  | other => .error (.invalidType other "i64")

end Folio.Json
