/-!
# Lenient UTF-8

`decodeLenient` reads any bytes: what is no character becomes U+FFFD, one for each longest start
of a character that goes no further.
-/

namespace Folio.Text

/-- The bytes of a text. -/
def utf8 (s : String) : List UInt8 :=
  s.toUTF8.toList

/-- What stands for bytes that are no character. -/
def replacement : Char := Char.ofNat 0xfffd

/-- Whether a byte continues a character. -/
def isContinuation (b : UInt8) : Bool :=
  0x80 ≤ b && b ≤ 0xbf

/-- The number of bytes that follow a leading byte, and what the first of them may be. -/
def leading? (b : UInt8) : Option (Nat × UInt8 × UInt8) :=
  if 0xc2 ≤ b && b ≤ 0xdf then some (1, 0x80, 0xbf)
  else if b == 0xe0 then some (2, 0xa0, 0xbf)
  else if b == 0xed then some (2, 0x80, 0x9f)
  else if 0xe1 ≤ b && b ≤ 0xef then some (2, 0x80, 0xbf)
  else if b == 0xf0 then some (3, 0x90, 0xbf)
  else if 0xf1 ≤ b && b ≤ 0xf3 then some (3, 0x80, 0xbf)
  else if b == 0xf4 then some (3, 0x80, 0x8f)
  else none

/-- Takes the continuation bytes that are there, at most `count`. -/
def continuation : Nat → List UInt8 → List UInt8
  | 0, _ => []
  | count + 1, b :: rest => if isContinuation b then b :: continuation count rest else []
  | _, [] => []

/-- The continuation bytes after a leading byte, the first within its own bounds. -/
def follow (count : Nat) (low high : UInt8) : List UInt8 → List UInt8
  | [] => []
  | b :: rest => if low ≤ b && b ≤ high then b :: continuation (count - 1) rest else []

/-- The code point of a leading byte and its continuation bytes. -/
def codePoint (lead : UInt8) (tail : List UInt8) : Nat :=
  tail.foldl (fun acc b => acc * 64 + b.toNat % 64) (lead.toNat % Nat.pow 2 (6 - tail.length))

/-- Reads one character from `b` and the bytes after it, and says how many of those it takes. -/
def decodeChar (b : UInt8) (rest : List UInt8) : Char × Nat :=
  if b < 0x80 then (Char.ofNat b.toNat, 0)
  else
    match leading? b with
    | none => (replacement, 0)
    | some (count, low, high) =>
      let tail := follow count low high rest
      if tail.length == count then (Char.ofNat (codePoint b tail), count)
      else (replacement, tail.length)

/-- The characters of any bytes. -/
def decodeLenient (bytes : List UInt8) : List Char :=
  match bytes with
  | [] => []
  | b :: rest =>
    let (c, used) := decodeChar b rest
    c :: decodeLenient (rest.drop used)
termination_by bytes.length
decreasing_by simp only [List.length_drop, List.length_cons]; omega

end Folio.Text
