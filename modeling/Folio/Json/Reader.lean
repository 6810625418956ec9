import Folio.Json
import Folio.Text.Digits
import Folio.Text.Hex

/-!
# Reading JSON text

`Json.parse?` reads one value, however deep it is nested. Integers beyond 64 bits and numbers with a
fraction or an exponent are floating point numbers; of two members with one name the later counts.
-/

namespace Folio.Json

/-- Whether a character may stand between tokens. -/
def isSpace (c : Char) : Bool :=
  c == ' ' || c == '\t' || c == '\n' || c == '\r'

/-- The bits of the floating point number nearest to `digits · 10 ^ exponent`. -/
def floatBits (negative : Bool) (digits : Nat) (exponent : Int) : UInt64 :=
  let magnitude :=
    if exponent < 0 then Float.ofScientific digits true (-exponent).toNat
    else Float.ofScientific digits false exponent.toNat
  (if negative then -magnitude else magnitude).toBits

/-- An integer, or a floating point number when it has no place in 64 bits. -/
def integer (negative : Bool) (value : Nat) : Json :=
  if negative then
    if value == 0 then .float (floatBits true 0 0)
    else if value ≤ 9223372036854775808 then .int (-(value : Int))
    else .float (floatBits true value 0)
  else if value < 18446744073709551616 then .int value
  else .float (floatBits false value 0)

/-- Reads the exponent part of a number, if there is one. -/
def exponentPart (cs : List Char) : Option (Option Int × List Char) :=
  match cs with
  | e :: rest =>
    if e == 'e' || e == 'E' then
      let (negative, rest) :=
        match rest with
        | '-' :: more => (true, more)
        | '+' :: more => (false, more)
        | more => (false, more)
      let digits := rest.takeWhile Char.isDigit
      if digits.isEmpty then none
      else
        let value : Int := Text.decimalValue digits
        some (some (if negative then -value else value), rest.dropWhile Char.isDigit)
    else some (none, cs)
  | [] => some (none, [])

/-- Reads a number. -/
def number? (cs : List Char) : Option (Json × List Char) :=
  let (negative, cs) :=
    match cs with
    | '-' :: rest => (true, rest)
    | rest => (false, rest)
  let whole := cs.takeWhile Char.isDigit
  let cs := cs.dropWhile Char.isDigit
  if whole.isEmpty || whole.head? == some '0' && whole.length > 1 then none
  else
    let fraction? : Option (Option (List Char) × List Char) :=
      match cs with
      | '.' :: rest =>
        let digits := rest.takeWhile Char.isDigit
        if digits.isEmpty then none else some (some digits, rest.dropWhile Char.isDigit)
      | rest => some (none, rest)
    match fraction? with
    | none => none
    | some (fraction, cs) =>
      match exponentPart cs with
      | none => none
      | some (exponent, cs) =>
        match fraction, exponent with
        | none, none => some (integer negative (Text.decimalValue whole), cs)
        | _, _ =>
          let fraction := fraction.getD []
          let digits := Text.decimalValue (whole ++ fraction)
          let power := exponent.getD 0 - (fraction.length : Int)
          some (.float (floatBits negative digits power), cs)

/-- Reads four hexadecimal digits. -/
def unit? : List Char → Option (Nat × List Char)
  | a :: b :: c :: d :: rest => do
    let a ← Text.hexValue? a
    let b ← Text.hexValue? b
    let c ← Text.hexValue? c
    let d ← Text.hexValue? d
    pure (((a * 16 + b) * 16 + c) * 16 + d, rest)
  | _ => none

/-- Reads the character after `\u`; a high surrogate needs a low one after it. -/
def escapedUnit? (cs : List Char) : Option (Char × List Char) := do
  let (first, rest) ← unit? cs
  if 0xd800 ≤ first && first < 0xdc00 then
    match rest with
    | '\\' :: 'u' :: more => do
      let (second, rest) ← unit? more
      if 0xdc00 ≤ second && second < 0xe000 then
        pure (Char.ofNat (0x10000 + (first - 0xd800) * 0x400 + (second - 0xdc00)), rest)
      else none
    | _ => none
  else if 0xdc00 ≤ first && first < 0xe000 then none
  else pure (Char.ofNat first, rest)

/-- Reads the rest of a string after its opening quote; `fuel` bounds its length. -/
def stringBody? : Nat → List Char → List Char → Option (String × List Char)
  | 0, _, _ => none
  | _ + 1, _, [] => none
  | fuel + 1, done, c :: rest =>
    if c == '"' then some (String.ofList done.reverse, rest)
    else if c == '\\' then
      match rest with
      | '"' :: rest => stringBody? fuel ('"' :: done) rest
      | '\\' :: rest => stringBody? fuel ('\\' :: done) rest
      | '/' :: rest => stringBody? fuel ('/' :: done) rest
      | 'b' :: rest => stringBody? fuel (Char.ofNat 8 :: done) rest
      | 'f' :: rest => stringBody? fuel (Char.ofNat 12 :: done) rest
      | 'n' :: rest => stringBody? fuel ('\n' :: done) rest
      | 'r' :: rest => stringBody? fuel ('\r' :: done) rest
      | 't' :: rest => stringBody? fuel ('\t' :: done) rest
      | 'u' :: rest =>
        match escapedUnit? rest with
        | some (c, rest) => stringBody? fuel (c :: done) rest
        | none => none
      | _ => none
    else if c.toNat < 0x20 then none
    else stringBody? fuel (c :: done) rest

mutual

/-- Reads a value; `fuel` bounds the number of tokens. -/
def value? : Nat → List Char → Option (Json × List Char)
  | 0, _ => none
  | fuel + 1, cs =>
    match cs.dropWhile isSpace with
    | 'n' :: 'u' :: 'l' :: 'l' :: rest => some (.null, rest)
    | 't' :: 'r' :: 'u' :: 'e' :: rest => some (.bool true, rest)
    | 'f' :: 'a' :: 'l' :: 's' :: 'e' :: rest => some (.bool false, rest)
    | '"' :: rest => (stringBody? (rest.length + 1) [] rest).map fun (s, rest) => (.str s, rest)
    | '[' :: rest =>
      match rest.dropWhile isSpace with
      | ']' :: rest => some (.arr [], rest)
      | rest => (items? fuel rest).map fun (items, rest) => (.arr items, rest)
    | '\x7b' :: rest =>
      match rest.dropWhile isSpace with
      | '\x7d' :: rest => some (.obj [], rest)
      | rest => (members? fuel rest).map fun (members, rest) => (.object members, rest)
    | rest => number? rest

/-- Reads the items of an array up to its closing bracket. -/
def items? : Nat → List Char → Option (List Json × List Char)
  | 0, _ => none
  | fuel + 1, cs =>
    match value? fuel cs with
    | none => none
    | some (item, rest) =>
      match rest.dropWhile isSpace with
      | ',' :: rest => (items? fuel rest).map fun (items, rest) => (item :: items, rest)
      | ']' :: rest => some ([item], rest)
      | _ => none

/-- Reads the members of an object up to its closing brace. -/
def members? : Nat → List Char → Option (List (String × Json) × List Char)
  | 0, _ => none
  | fuel + 1, cs =>
    match cs.dropWhile isSpace with
    | '"' :: rest =>
      match stringBody? (rest.length + 1) [] rest with
      | none => none
      | some (name, rest) =>
        match rest.dropWhile isSpace with
        | ':' :: rest =>
          match value? fuel rest with
          | none => none
          | some (value, rest) =>
            match rest.dropWhile isSpace with
            | ',' :: rest =>
              (members? fuel rest).map fun (members, rest) => ((name, value) :: members, rest)
            | '\x7d' :: rest => some ([(name, value)], rest)
            | _ => none
        | _ => none
    | _ => none

end

/-- Reads a text that is one JSON value. -/
def parse? (s : String) : Option Json :=
  let cs := s.toList
  match value? (2 * cs.length + 2) cs with
  | some (value, rest) => if rest.all isSpace then some value else none
  | none => none

end Folio.Json
