import Folio.Json.Decode

/-!
# Session generations

A user's sessions belong to a generation; advancing it ends them. The counter has 64 bits and a
sign, and stays at its largest value once there.
-/

namespace Folio

/-- The smallest generation. -/
def Generation.least : Int := -9223372036854775808

/-- The largest generation. -/
def Generation.greatest : Int := 9223372036854775807

/-- A counter of 64 bits. -/
structure Generation where
  value : Int
  lower : Generation.least ≤ value
  upper : value ≤ Generation.greatest
  deriving DecidableEq

namespace Generation

/-- The generation of a new user. -/
def initial : Generation := ⟨0, by decide, by decide⟩

/-- The generation after; the largest is its own successor. -/
def next (g : Generation) : Generation :=
  if below : g.value < greatest then
    ⟨g.value + 1, Int.le_trans g.lower (Int.le_add_of_nonneg_right (by decide)), below⟩
  else g

/-- The generation with a value, when 64 bits hold it. -/
def ofInt? (value : Int) : Option Generation :=
  if h : least ≤ value ∧ value ≤ greatest then some ⟨value, h.1, h.2⟩ else none

/-- A generation as JSON. -/
def toJson (g : Generation) : Json :=
  .int g.value

/-- Reads a generation from JSON. -/
def ofJson (value : Json) : Except Json.DecodeError Generation := do
  let n ← value.asInt64
  match ofInt? n with
  | some g => pure g
  | none => .error (.invalidType value "i64")

/-- A generation and those that follow it, `steps` of them. -/
def sequence (g : Generation) : Nat → List Generation
  | 0 => [g]
  | steps + 1 => g :: sequence g.next steps

end Generation

end Folio
