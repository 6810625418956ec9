import Folio.Text.Digits
import Folio.Text.Hex

/-!
# Socket addresses

An IPv4 or IPv6 address with a number after a colon. `SocketAddress.parse?` reads the usual text
forms and `SocketAddress.render` prints the canonical one: IPv6 in lower case, without leading
zeros, and with the first of the longest runs of zero groups shortened.
-/

namespace Folio.Settings

/-- An IPv4 address. -/
structure Ipv4 where
  first : UInt8
  second : UInt8
  third : UInt8
  fourth : UInt8
  deriving DecidableEq, Repr

/-- An IPv6 address: eight groups of 16 bits. -/
structure Ipv6 where
  groups : Vector UInt16 8
  deriving DecidableEq, Repr

/-- Where a server listens. -/
inductive SocketAddress where
  | v4 (address : Ipv4) (portNumber : UInt16)
  | v6 (address : Ipv6) (scope : UInt32) (portNumber : UInt16)
  deriving DecidableEq, Repr

/-! ### Reading -/

/-- Reads a character that has to be there. -/
def expect? (c : Char) : List Char → Option (List Char)
  | d :: rest => if d = c then some rest else none
  | [] => none

/-- Reads the decimal digits in front: a number below `bound`. -/
def decimalBelow? (bound : Nat) (cs : List Char) : Option (Nat × List Char) := do
  let n ← Text.decimal? (cs.takeWhile Char.isDigit)
  if n < bound then some (n, cs.dropWhile Char.isDigit) else none

namespace Ipv4

/-- Reads one of the four numbers: at most three digits, and no zero in front of others. -/
def octet? (cs : List Char) : Option (UInt8 × List Char) :=
  let digits := cs.takeWhile Char.isDigit
  if digits.length ≤ 3 ∧ (digits.head? = some '0' → digits.length = 1) then
    (decimalBelow? 256 cs).map fun (n, rest) => (n.toUInt8, rest)
  else none

/-- Reads an address in front of a text. -/
def ofChars? (cs : List Char) : Option (Ipv4 × List Char) := do
  let (first, cs) ← octet? cs
  let (second, cs) ← octet? (← expect? '.' cs)
  let (third, cs) ← octet? (← expect? '.' cs)
  let (fourth, cs) ← octet? (← expect? '.' cs)
  some (⟨first, second, third, fourth⟩, cs)

/-- An address as two groups of 16 bits. -/
def groups (a : Ipv4) : List UInt16 :=
  [a.first.toUInt16 * 256 + a.second.toUInt16, a.third.toUInt16 * 256 + a.fourth.toUInt16]

/-- The text of an address. -/
def render (a : Ipv4) : String :=
  toString a.first.toNat ++ "." ++ toString a.second.toNat ++ "." ++ toString a.third.toNat
    ++ "." ++ toString a.fourth.toNat

end Ipv4

namespace Ipv6

/-- Reads a group: one to four hexadecimal digits. -/
def group? (cs : List Char) : Option (UInt16 × List Char) :=
  let isHex (c : Char) : Bool := (Text.hexValue? c).isSome
  let digits := cs.takeWhile isHex
  if 1 ≤ digits.length ∧ digits.length ≤ 4 then
    let value := digits.foldl (fun acc c => 16 * acc + (Text.hexValue? c).getD 0) 0
    some (value.toUInt16, cs.dropWhile isHex)
  else none

/-- Groups with colons between them, as many as there are up to a limit; an IPv4 address may stand
for the last two. Also tells whether one did. -/
def groupsOfChars : Nat → Bool → List Char → List UInt16 × Bool × List Char
  | 0, _, cs => ([], false, cs)
  | limit + 1, first, cs =>
    match if first then some cs else expect? ':' cs with
    | none => ([], false, cs)
    | some start =>
      match if 1 ≤ limit then Ipv4.ofChars? start else none with
      | some (address, rest) => (address.groups, true, rest)
      | none =>
        match group? start with
        | some (group, rest) =>
          let (groups, embedded, rest) := groupsOfChars limit false rest
          (group :: groups, embedded, rest)
        | none => ([], false, cs)

/-- The address with eight groups. -/
def ofGroups? (groups : List UInt16) : Option Ipv6 :=
  if h : groups.length = 8 then some ⟨⟨groups.toArray, by simpa using h⟩⟩ else none

/-- Reads an address in front of a text. Two colons stand for the groups that are missing, at
least one, and no IPv4 address stands before them. -/
def ofChars? (cs : List Char) : Option (Ipv6 × List Char) :=
  let (head, embedded, rest) := groupsOfChars 8 true cs
  if head.length = 8 then (ofGroups? head).map (·, rest)
  else if embedded then none
  else do
    let rest ← expect? ':' (← expect? ':' rest)
    let (tail, _, rest) := groupsOfChars (7 - head.length) true rest
    let zeros := List.replicate (8 - head.length - tail.length) 0
    (ofGroups? (head ++ zeros ++ tail)).map (·, rest)

/-- The IPv4 address that an address holds in its last two groups when the five first are zero and
all bits of the sixth are set. -/
def mapped? (a : Ipv6) : Option Ipv4 :=
  match a.groups.toList with
  | [0, 0, 0, 0, 0, 0xffff, high, low] =>
    some ⟨(high / 256).toUInt8, high.toUInt8, (low / 256).toUInt8, low.toUInt8⟩
  | _ => none

/-- Groups with colons between them. -/
def renderGroups (groups : List UInt16) : String :=
  ":".intercalate (groups.map fun g => Text.hexText g.toNat)

/-- The number of zero groups in front. -/
def zeroRun : List UInt16 → Nat
  | [] => 0
  | g :: rest => if g = 0 then zeroRun rest + 1 else 0

/-- The start and the length of the longest run of zero groups, of several the first; `position`
counts the groups before. -/
def longestZeros (position : Nat) : List UInt16 → Nat × Nat
  | [] => (position, 0)
  | g :: rest =>
    let here := zeroRun (g :: rest)
    let later := longestZeros (position + 1) rest
    if later.2 ≤ here then (position, here) else later

/-- The text of an address. -/
def render (a : Ipv6) : String :=
  match a.mapped? with
  | some address => "::ffff:" ++ address.render
  | none =>
    let groups := a.groups.toList
    let (start, length) := longestZeros 0 groups
    if 2 ≤ length then
      renderGroups (groups.take start) ++ "::" ++ renderGroups (groups.drop (start + length))
    else renderGroups groups

end Ipv6

namespace SocketAddress

/-- Reads the number after the colon, which ends the text. -/
def portNumber? (cs : List Char) : Option UInt16 := do
  let (n, rest) ← decimalBelow? 65536 (← expect? ':' cs)
  if rest.isEmpty then some n.toUInt16 else none

/-- Reads an IPv6 address between brackets; a zone number may follow it after a percent sign. -/
def v6OfChars? (cs : List Char) : Option SocketAddress := do
  let (address, cs) ← Ipv6.ofChars? (← expect? '[' cs)
  let (scope, cs) ← match expect? '%' cs with
    | some cs => decimalBelow? 4294967296 cs
    | none => some (0, cs)
  let number ← portNumber? (← expect? ']' cs)
  some (.v6 address scope.toUInt32 number)

/-- Reads a socket address. -/
def parse? (s : String) : Option SocketAddress :=
  match Ipv4.ofChars? s.toList with
  | some (address, cs) => (portNumber? cs).map (.v4 address)
  | none => v6OfChars? s.toList

/-- The text of a socket address. -/
def render : SocketAddress → String
  | v4 address number => address.render ++ ":" ++ toString number.toNat
  | v6 address scope number =>
    let zone := if scope = 0 then "" else "%" ++ toString scope.toNat
    "[" ++ address.render ++ zone ++ "]:" ++ toString number.toNat

/-- What a text that is no socket address is refused with. -/
def refusal : String := "invalid socket address syntax"

end SocketAddress

end Folio.Settings
