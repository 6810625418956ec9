import Folio.Text.Hex

/-!
# UUIDs

A UUID is 128 bits. `Uuid.render` prints the lower-case form with hyphens, `Uuid.parse?` reads it
and three more: 32 digits without hyphens, after `urn:uuid:`, and inside braces.
-/

namespace Folio

/-- A universally unique identifier. -/
structure Uuid where
  bits : BitVec 128
  deriving DecidableEq, Repr

namespace Uuid

/-- The `width` last hexadecimal digits of a number, with leading zeros. -/
def fixedHex : Nat → Nat → List Char
  | 0, _ => []
  | width + 1, n => Text.hexDigit (n / Nat.pow 16 width % 16) :: fixedHex width n

/-- Digits in groups of 8, 4, 4, 4 and the rest, with hyphens between them. -/
def hyphenate (digits : List Char) : List Char :=
  digits.take 8 ++ '-' :: (digits.drop 8).take 4 ++ '-' :: (digits.drop 12).take 4
    ++ '-' :: (digits.drop 16).take 4 ++ '-' :: digits.drop 20

/-- The characters of the printed form. -/
def renderChars (u : Uuid) : List Char :=
  hyphenate (fixedHex 32 u.bits.toNat)

/-- The printed form: lower-case digits with hyphens. -/
def render (u : Uuid) : String :=
  String.ofList u.renderChars

/-- The value of hexadecimal digits in either case, after the digits already read. -/
def hexNat? : Nat → List Char → Option Nat
  | acc, [] => some acc
  | acc, c :: rest =>
    match Text.hexValue? c with
    | some digit => hexNat? (16 * acc + digit) rest
    | none => none

/-- Reads 32 digits. -/
def ofDigits? (digits : List Char) : Option Uuid :=
  if digits.length = 32 then (hexNat? 0 digits).map fun n => ⟨BitVec.ofNat 128 n⟩ else none

/-- Reads groups of 8, 4, 4, 4 and 12 digits with hyphens between them. -/
def ofHyphenated? (cs : List Char) : Option Uuid :=
  if cs.length = 36 ∧ cs[8]? = some '-' ∧ cs[13]? = some '-' ∧ cs[18]? = some '-'
      ∧ cs[23]? = some '-' then
    ofDigits? (cs.take 8 ++ (cs.drop 9).take 4 ++ (cs.drop 14).take 4 ++ (cs.drop 19).take 4
      ++ cs.drop 24)
  else none

/-- What stands before a UUID in a uniform resource name, in either case. -/
def urn : List Char := ['u', 'r', 'n', ':', 'u', 'u', 'i', 'd', ':']

/-- Reads any of the four text forms. -/
def ofChars? (cs : List Char) : Option Uuid :=
  if cs.length = 32 then ofDigits? cs
  else if cs.length = 36 then ofHyphenated? cs
  else if cs.length = 38 ∧ cs.head? = some '\x7b' ∧ cs.getLast? = some '\x7d' then
    ofHyphenated? ((cs.drop 1).take 36)
  else if cs.length = 45 ∧ (cs.take 9).map Char.toLower = urn then ofHyphenated? (cs.drop 9)
  else none

/-- Reads a text that is a UUID in one of the four forms. -/
def parse? (s : String) : Option Uuid :=
  ofChars? s.toList

end Uuid

end Folio
