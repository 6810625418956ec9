import Folio.Password.Base64

/-!
# Base64 read back

Bytes are read back from their Base64 (`decode_encode`), and the length of a text says how many
bytes it holds (`decodedSize_encode`).
-/

namespace Folio.Password.Base64

theorem value_symbol {n : Nat} (small : n < 64) : value? (symbol n) = some n := by
  have all : ∀ n < 64, value? (symbol n) = some n := by decide +kernel
  exact all n small

/-- Letters, digits, `+` and `/`. -/
def isSymbol (c : Char) : Bool :=
  c.isAlphanum || c == '+' || c == '/'

theorem isSymbol_symbol (n : Nat) : isSymbol (symbol n) = true := by
  have all : ∀ n < 63, isSymbol (symbol n) = true := by decide +kernel
  rcases Nat.lt_or_ge n 63 with small | large
  · exact all n small
  · have last : symbol n = '/' := by
      unfold symbol
      rw [if_neg (by omega), if_neg (by omega), if_neg (by omega), if_neg (by omega)]
    rw [last]
    rfl

theorem encode_symbols (bytes : List UInt8) : ∀ c ∈ encode bytes, isSymbol c = true := by
  fun_induction encode bytes with
  | case1 => simp
  | case2 a => simp [isSymbol_symbol]
  | case3 a b => simp [isSymbol_symbol]
  | case4 a b c rest ih => simpa [isSymbol_symbol] using ih

/-- The byte whose upper and lower bits two symbols share. -/
theorem byte_of_parts {a : UInt8} {high low : Nat} (whole : high + low = a.toNat) :
    (high + low).toUInt8 = a := by
  rw [whole]
  exact UInt8.ofNat_toNat

theorem decode_encode (bytes : List UInt8) : decode? (encode bytes) = some bytes := by
  fun_induction encode bytes with
  | case1 => rfl
  | case2 a =>
    have bound := a.toNat_lt
    rw [decode?, value_symbol (by omega), value_symbol (by omega)]
    have first : (a.toNat / 4 * 4 + a.toNat % 4 * 16 / 16).toUInt8 = a := byte_of_parts (by omega)
    have spare : a.toNat % 4 * 16 % 16 = 0 := by omega
    simp only [Option.bind_eq_bind, Option.bind_some, first, spare, if_true]
  | case3 a b =>
    have bound := a.toNat_lt
    have bound' := b.toNat_lt
    rw [decode?, value_symbol (by omega), value_symbol (by omega), value_symbol (by omega)]
    have first : (a.toNat / 4 * 4 + (a.toNat % 4 * 16 + b.toNat / 16) / 16).toUInt8 = a :=
      byte_of_parts (by omega)
    have second : ((a.toNat % 4 * 16 + b.toNat / 16) % 16 * 16 +
        b.toNat % 16 * 4 / 4).toUInt8 = b := byte_of_parts (by omega)
    have spare : b.toNat % 16 * 4 % 4 = 0 := by omega
    simp only [Option.bind_eq_bind, Option.bind_some, first, second, spare, if_true]
  | case4 a b c rest ih =>
    have bound := a.toNat_lt
    have bound' := b.toNat_lt
    have bound'' := c.toNat_lt
    rw [decode?, value_symbol (by omega), value_symbol (by omega), value_symbol (by omega),
      value_symbol (by omega), ih]
    -- Three bytes lie across four symbols, each byte in two that are next to each other.
    have first : (a.toNat / 4 * 4 + (a.toNat % 4 * 16 + b.toNat / 16) / 16).toUInt8 = a :=
      byte_of_parts (by omega)
    have second : ((a.toNat % 4 * 16 + b.toNat / 16) % 16 * 16 +
        (b.toNat % 16 * 4 + c.toNat / 64) / 4).toUInt8 = b := byte_of_parts (by omega)
    have third : ((b.toNat % 16 * 4 + c.toNat / 64) % 4 * 64 + c.toNat % 64).toUInt8 = c :=
      byte_of_parts (by omega)
    simp only [Option.bind_eq_bind, Option.bind_some, first, second, third]

theorem length_encode (bytes : List UInt8) :
    (encode bytes).length = (4 * bytes.length + 2) / 3 := by
  fun_induction encode bytes with
  | case1 => rfl
  | case2 a => simp
  | case3 a b => simp
  | case4 a b c rest ih =>
    simp only [List.length_cons, ih]
    omega

theorem decodedSize_encode (bytes : List UInt8) :
    decodedSize (encode bytes).length = bytes.length := by
  rw [length_encode, decodedSize]
  omega

end Folio.Password.Base64
