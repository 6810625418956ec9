/-!
# Decimal digits
-/

namespace Folio.Text

/-- The number that decimal digits spell. -/
def decimalValue (digits : List Char) : Nat :=
  digits.foldl (fun acc c => 10 * acc + (c.toNat - 48)) 0

/-- The number a text spells when it has decimal digits only, and at least one. -/
def decimal? (cs : List Char) : Option Nat :=
  if !cs.isEmpty && cs.all Char.isDigit then some (decimalValue cs) else none

/-- The last `width` digits of a number, with leading zeros. -/
def fixedDecimal : Nat → Nat → List Char
  | 0, _ => []
  | width + 1, n => Nat.digitChar (n / Nat.pow 10 width % 10) :: fixedDecimal width n

/-- A character of ASCII in lower case; any other as it is. -/
def asciiLower (s : String) : String :=
  String.ofList (s.toList.map Char.toLower)

end Folio.Text
