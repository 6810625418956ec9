import Folio.Text.Digits

/-!
# Durations

A length of time in whole nanoseconds. It is written in the largest of its units of which there is
at least one, with as many decimals as it has.
-/

namespace Folio.Time

/-- A length of time. -/
structure Duration where
  nanoseconds : Nat
  deriving DecidableEq, Repr

namespace Duration

/-- A number of seconds. -/
def ofSeconds (seconds : Nat) : Duration := ⟨seconds * 1000000000⟩

/-- A number of milliseconds. -/
def ofMilliseconds (milliseconds : Nat) : Duration := ⟨milliseconds * 1000000⟩

/-- The units above a nanosecond, the largest first, each with its number of decimals. -/
def units : List (String × Nat) := [("s", 9), ("ms", 6), ("µs", 3)]

/-- A duration as the log shows it. -/
def describe (duration : Duration) : String :=
  let (unit, decimals) :=
    (units.find? fun unit => Nat.pow 10 unit.2 ≤ duration.nanoseconds).getD ("ns", 0)
  let one := Nat.pow 10 decimals
  let fraction :=
    (Text.fixedDecimal decimals (duration.nanoseconds % one)).reverse.dropWhile (· == '0')
  let point := if fraction.isEmpty then "" else "."
  toString (duration.nanoseconds / one) ++ point ++ String.ofList fraction.reverse ++ unit

end Duration

end Folio.Time
