import Folio.Text.Blank
import Folio.Text.Digits
import Folio.Time.Instant

/-!
# Timestamps

`Instant.render` prints an instant in UTC with as few of 0, 3, 6 or 9 fraction digits as show it
exactly. `Instant.parse?` reads a wider grammar: blanks before numbers and separators, short
numbers, signed years, any offset from UTC.
-/

namespace Folio.Time

/-- A year: four digits from 0 to 9999, else a sign and at least four digits. -/
def renderYear (year : Int) : List Char :=
  if 0 ≤ year ∧ year ≤ 9999 then Text.fixedDecimal 4 year.toNat
  else
    let digits := Nat.toDigits 10 year.natAbs
    (if year < 0 then '-' else '+') :: List.replicate (4 - digits.length) '0' ++ digits

/-- The fraction of a second with its point, the shortest of 0, 3, 6 and 9 digits. -/
def renderFraction (nano : Nat) : List Char :=
  if nano = 0 then []
  else if nano % 1000000 = 0 then '.' :: Text.fixedDecimal 3 (nano / 1000000)
  else if nano % 1000 = 0 then '.' :: Text.fixedDecimal 6 (nano / 1000)
  else '.' :: Text.fixedDecimal 9 nano

namespace Instant

/-- The characters of the printed form. -/
def renderChars (t : Instant) : List Char :=
  renderYear t.date.year ++ '-' :: Text.fixedDecimal 2 t.date.month
    ++ '-' :: Text.fixedDecimal 2 t.date.day ++ 'T' :: Text.fixedDecimal 2 t.hour
    ++ ':' :: Text.fixedDecimal 2 t.minute ++ ':' :: Text.fixedDecimal 2 t.second
    ++ renderFraction t.nano ++ ['Z']

/-- The printed form of an instant. -/
def render (t : Instant) : String :=
  String.ofList t.renderChars

end Instant

/-! ### Reading -/

/-- Characters after leading blanks. -/
def skipBlanks (cs : List Char) : List Char :=
  cs.dropWhile Text.isBlank

/-- Reads the digits in front, `most` of them at the most. -/
def takeDigits : Nat → List Char → List Char × List Char
  | 0, cs => ([], cs)
  | most + 1, c :: rest =>
    if c.isDigit then
      let (digits, after) := takeDigits most rest
      (c :: digits, after)
    else ([], c :: rest)
  | _, [] => ([], [])

/-- Reads a number of one to `most` digits. -/
def digits? (most : Nat) (cs : List Char) : Option (Nat × List Char) :=
  match takeDigits most cs with
  | ([], _) => none
  | (digits, rest) => some (Text.decimalValue digits, rest)

/-- Reads a number of one or two digits after blanks. -/
def number? (cs : List Char) : Option (Nat × List Char) :=
  digits? 2 (skipBlanks cs)

/-- Reads a year after blanks: up to four digits, or a sign and any number of digits. -/
def year? (cs : List Char) : Option (Int × List Char) :=
  match skipBlanks cs with
  | '-' :: rest => (digits? rest.length rest).map fun (n, rest) => (-(n : Int), rest)
  | '+' :: rest => (digits? rest.length rest).map fun (n, rest) => ((n : Int), rest)
  | rest => (digits? 4 rest).map fun (n, rest) => ((n : Int), rest)

/-- Reads a separator after blanks. -/
def separator? (c : Char) (cs : List Char) : Option (List Char) :=
  match skipBlanks cs with
  | first :: rest => if first = c then some rest else none
  | [] => none

/-- Reads the character between date and time. -/
def timeMark? : List Char → Option (List Char)
  | 'T' :: rest | 't' :: rest | ' ' :: rest => some rest
  | _ => none

/-- Reads an optional fraction of a second; digits after the ninth are dropped. -/
def fraction? : List Char → Option (Nat × List Char)
  | '.' :: rest =>
    match takeDigits 9 rest with
    | ([], _) => none
    | (digits, after) =>
      some (Text.decimalValue digits * Nat.pow 10 (9 - digits.length), after.dropWhile Char.isDigit)
  | cs => some (0, cs)

/-- Two digits as a number. -/
def twoDigits? : List Char → Option (Nat × List Char)
  | a :: b :: rest =>
    if a.isDigit && b.isDigit then some (Text.decimalValue [a, b], rest) else none
  | _ => none

/-- Reads the hours and minutes of an offset, as minutes. -/
def offsetMinutes? (cs : List Char) : Option (Nat × List Char) :=
  match twoDigits? cs with
  | none => none
  | some (hours, rest) =>
    match twoDigits? (rest.dropWhile fun c => c == ':' || Text.isBlank c) with
    | none => none
    | some (minutes, rest) => if minutes < 60 then some (60 * hours + minutes, rest) else none

/-- Reads an offset from UTC, in minutes. -/
def offset? (cs : List Char) : Option (Int × List Char) :=
  match cs with
  | 'Z' :: rest | 'z' :: rest => some (0, rest)
  | '+' :: rest => (offsetMinutes? rest).map fun (n, rest) => ((n : Int), rest)
  | '-' :: rest | '−' :: rest => (offsetMinutes? rest).map fun (n, rest) => (-(n : Int), rest)
  | _ =>
    if (cs.take 3).map Char.toLower = ['u', 't', 'c'] then some (0, cs.drop 3) else none

/-- A date and a time of day as they stand in a timestamp, and the offset from UTC in minutes. -/
structure Reading where
  year : Int
  month : Nat
  day : Nat
  hour : Nat
  minute : Nat
  second : Nat
  nano : Nat
  offset : Int
  deriving DecidableEq, Repr

/-- Reads the parts of a timestamp; nothing may follow. -/
def reading? (cs : List Char) : Option Reading := do
  let (year, cs) ← year? cs
  let cs ← separator? '-' cs
  let (month, cs) ← number? cs
  let cs ← separator? '-' cs
  let (day, cs) ← number? cs
  let cs ← timeMark? cs
  let (hour, cs) ← number? cs
  let cs ← separator? ':' cs
  let (minute, cs) ← number? cs
  let cs ← separator? ':' cs
  let (second, cs) ← number? cs
  let (nano, cs) ← fraction? cs
  let (offset, cs) ← offset? (skipBlanks cs)
  if cs.isEmpty then some ⟨year, month, day, hour, minute, second, nano, offset⟩ else none

/-- The instant that a reading stands for: its offset, under a day, is taken off. -/
def Reading.instant? (r : Reading) : Option Instant := do
  let civil ← Instant.ofParts? ⟨r.year, r.month, r.day⟩ r.hour r.minute r.second r.nano
  if r.offset.natAbs < 1440 then
    let minutes := 60 * (r.hour : Int) + r.minute - r.offset
    let date := civil.date
    let date := if minutes < 0 then date.previous else if minutes ≥ 1440 then date.next else date
    let minutes := (minutes % 1440).toNat
    Instant.ofParts? date (minutes / 60) (minutes % 60) r.second r.nano
  else none

/-- Reads a timestamp. -/
def Instant.parse? (s : String) : Option Instant :=
  (reading? s.toList).bind Reading.instant?

end Folio.Time
