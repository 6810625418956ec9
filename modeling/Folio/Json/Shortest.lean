/-!
# Shortest decimals

`Shortest.ofBits` gives the fewest decimal digits that read back as a 64-bit floating point
number; of several such decimals, the nearest.
-/

namespace Folio.Json.Shortest

/-- A decimal `0.d₁d₂… · 10 ^ exponent`, its digits as one number. -/
structure Decimal where
  digits : Nat
  /-- Number of digits. -/
  places : Nat
  exponent : Int
  deriving DecidableEq, Repr

/-- A power of the base; negative exponents count as zero. -/
def power (base : Nat) (exponent : Int) : Nat :=
  Nat.pow base exponent.toNat

/-- The weight of the sign bit, `2 ^ 63`. -/
def signWeight : Nat := 9223372036854775808

/-- The number of fractions, `2 ^ 52`. -/
def fractions : Nat := 4503599627370496

/-- The least `k` with `num < den * 10 ^ k`, from `k = -fuel` on. -/
def scale (num den : Nat) : Nat → Int → Int
  | 0, k => k
  | fuel + 1, k =>
    if num * power 10 (-k) < den * power 10 k then k else scale num den fuel (k + 1)

/-- The points of the grid `10 ^ step` next to `num / den`, nearest first. -/
def neighbours (num den : Nat) (step : Int) : List Nat :=
  let n := num * power 10 (-step)
  let d := den * power 10 step
  let low := n / d
  let rest := n % d
  if 2 * rest < d || 2 * rest == d && low % 2 == 0 then [low, low + 1] else [low + 1, low]

/-- Whether a point of the grid `10 ^ step` lies between two quarters of the last place. -/
def within (point : Nat) (step : Int) (low high : Nat) (den : Nat) (closed : Bool) : Bool :=
  let scale := power 10 (-step)
  let value := point * power 10 step * den
  if closed then low * scale ≤ value && value ≤ high * scale
  else low * scale < value && value < high * scale

/-- Looks for a grid with a point in the interval, from `places` digits on. -/
def search (num low high den : Nat) (closed : Bool) (exponent : Int) : Nat → Nat → Decimal
  | 0, places => ⟨(neighbours num den (exponent - places)).headD 0, places, exponent⟩
  | fuel + 1, places =>
    let step := exponent - places
    match (neighbours num den step).find? fun point => within point step low high den closed with
    | some point => ⟨point, places, exponent⟩
    | none => search num low high den closed exponent fuel (places + 1)

/-- The shortest decimal of the magnitude of a finite number other than zero. -/
def ofBits (bits : UInt64) : Decimal :=
  let raw := bits.toNat % signWeight
  let field : Nat := raw / fractions
  let fraction := raw % fractions
  let mantissa : Nat := if field == 0 then fraction else fraction + fractions
  let weight : Int := (max field 1 : Nat) - 1075
  -- The value and the ends of its interval, in quarters of the last place.
  let value := 4 * mantissa
  let high := value + 2
  let low := if fraction == 0 && field > 1 then value - 1 else value - 2
  let up := power 2 (weight - 2)
  let den := power 2 (2 - weight)
  let exponent := scale (value * up) den 700 (-330)
  search (value * up) (low * up) (high * up) den (mantissa % 2 == 0) exponent 17 1

/-- The digits of a decimal without trailing zeros. -/
def Decimal.text (d : Decimal) : List Char × Int :=
  let shown := Nat.toDigits 10 d.digits
  -- A point of the grid may have carried into one more digit.
  let exponent := d.exponent + (shown.length : Int) - d.places
  ((shown.reverse.dropWhile (· == '0')).reverse, exponent)

/-- Positional notation with at least one digit after the point. -/
def positional (digits : List Char) (exponent : Int) : List Char :=
  if exponent ≤ 0 then
    ['0', '.'] ++ List.replicate (-exponent).toNat '0' ++ digits
  else
    let whole := exponent.toNat
    let padded := digits ++ List.replicate (whole - digits.length) '0'
    let tail := padded.drop whole
    padded.take whole ++ ['.'] ++ (if tail.isEmpty then ['0'] else tail)

/-- A finite number in positional notation. -/
def plainText (bits : UInt64) : String :=
  let sign := if bits.toNat ≥ signWeight then ['-'] else []
  if bits.toNat % signWeight == 0 then String.ofList (sign ++ ['0', '.', '0'])
  else
    let (digits, exponent) := (ofBits bits).text
    String.ofList (sign ++ positional digits exponent)

/-- A finite number, with a power of ten when it is below `10 ^ -5` or from `10 ^ 16` on. -/
def compactText (bits : UInt64) : String :=
  if bits.toNat % signWeight == 0 then plainText bits
  else
    let (digits, exponent) := (ofBits bits).text
    if -5 < exponent && exponent ≤ 16 then plainText bits
    else
      let sign := if bits.toNat ≥ signWeight then ['-'] else []
      let mantissa :=
        match digits with
        | first :: second :: more => first :: '.' :: second :: more
        | few => few
      String.ofList (sign ++ mantissa ++ ['e']) ++ toString (exponent - 1)

end Folio.Json.Shortest
