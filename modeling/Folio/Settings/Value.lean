import Folio.Text.Blank
import Folio.Text.Digits
import Folio.Text.Hex

/-!
# Values of settings

A setting given as text has a type that follows from how it is written: truth values, numbers,
quoted or plain text, lists and tables. Text that is not well formed as anything else is plain.
-/

namespace Folio.Settings

/-- What the text of a setting stands for. Of fractions, lists and tables only the kind matters,
for no setting takes them. -/
inductive Value where
  | bool (b : Bool)
  | int (n : Int)
  | fraction
  | text (s : String)
  | list
  | table
  deriving DecidableEq, Repr

namespace Value

/-- Whether a character ends plain text inside a list or table. -/
def isSeparator (c : Char) : Bool :=
  c == ',' || c == '\x7b' || c == '\x7d' || c == '[' || c == ']'

/-- Whether a character may stand in an unquoted key of a table. -/
def isKeyChar (c : Char) : Bool :=
  c.isAlphanum || c == '_' || c == '-'

/-- Blank characters of ASCII. -/
def isSpace (c : Char) : Bool :=
  c == ' ' || c == '\t' || c == '\n' || c == '\r' || c == '\x0c'

/-! ### Quoted text -/

/-- Reads `count` hexadecimal digits: a character by its number. -/
def escapedChar? (count : Nat) (cs : List Char) : Option (Char × List Char) := do
  let digits := cs.take count
  if digits.length < count then none
  else
    let value ← digits.foldlM
      (fun acc c => (Text.hexValue? c).map (16 * acc + ·)) 0
    if h : value.isValidChar then some (Char.ofNatAux value h, cs.drop count) else none

/-- Reads what stands after a backslash. -/
def escape? : List Char → Option (Char × List Char)
  | '"' :: rest => some ('"', rest)
  | '\\' :: rest => some ('\\', rest)
  | 'b' :: rest => some ('\x08', rest)
  | 'f' :: rest => some ('\x0c', rest)
  | 'n' :: rest => some ('\n', rest)
  | 'r' :: rest => some ('\r', rest)
  | 't' :: rest => some ('\t', rest)
  | 'u' :: rest => escapedChar? 4 rest
  | 'U' :: rest => escapedChar? 8 rest
  | _ => none

/-- Reads quoted text up to its closing quote, after the opening one; `fuel` bounds the number of
characters. -/
def quoted? : Nat → List Char → Option (List Char × List Char)
  | 0, _ => none
  | _ + 1, [] => none
  | _ + 1, '"' :: rest => some ([], rest)
  | fuel + 1, '\\' :: rest => do
    let (c, rest) ← escape? rest
    let (cs, rest) ← quoted? fuel rest
    some (c :: cs, rest)
  | fuel + 1, c :: rest =>
    if c = '\t' ∨ (32 ≤ c.toNat ∧ c.toNat ≠ 127) then do
      let (cs, rest) ← quoted? fuel rest
      some (c :: cs, rest)
    else none

/-! ### Lists and tables -/

/-- Characters after a word, when they start with it. -/
def afterWord? : List Char → List Char → Option (List Char)
  | [], cs => some cs
  | w :: word, c :: cs => if w = c then afterWord? word cs else none
  | _ :: _, [] => none

/-- What follows the key of a table and its equals sign. -/
def afterKey? (cs : List Char) : Option (List Char) := do
  let cs := cs.dropWhile isSpace
  let cs ← match cs with
    | '"' :: rest => (quoted? (rest.length + 1) rest).map (·.2)
    | _ => if (cs.takeWhile isKeyChar).isEmpty then none else some (cs.dropWhile isKeyChar)
  match cs.dropWhile isSpace with
  | '=' :: rest => some rest
  | _ => none

/-- What to read next of a list or table. -/
inductive Expected where
  | value
  | items (closing : Char)

/-- What follows a value, or the items that are left of a list or table; `fuel` bounds the number
of steps. -/
def after? : Nat → Expected → List Char → Option (List Char)
  | 0, _, _ => none
  | fuel + 1, .value, cs => do
    let cs := cs.dropWhile isSpace
    let rest ←
      match afterWord? "true".toList cs, afterWord? "false".toList cs, cs with
      | some rest, _, _ => some rest
      | none, some rest, _ => some rest
      | none, none, '\x7b' :: rest => after? fuel (.items '\x7d') rest
      | none, none, '[' :: rest => after? fuel (.items ']') rest
      | none, none, '"' :: rest => (quoted? (rest.length + 1) rest).map (·.2)
      | none, none, '\'' :: _ :: '\'' :: rest => some rest
      | none, none, '\'' :: _ => none
      | none, none, _ => some (cs.dropWhile fun c => !isSeparator c)
    some (rest.dropWhile isSpace)
  | fuel + 1, .items closing, cs =>
    if cs.head? = some closing then some (cs.drop 1)
    else do
      let cs ← if closing = '\x7d' then afterKey? cs else some cs
      match ← after? fuel .value cs with
      | ',' :: rest => after? fuel (.items closing) rest
      | c :: rest => if c = closing then some rest else none
      | [] => none

/-- Whether a list or table is well formed and nothing follows it. -/
def isClosed (cs : List Char) : Bool :=
  after? (2 * cs.length + 2) .value cs == some []

/-! ### Numbers -/

/-- Characters without a sign in front. -/
def dropSign : List Char → List Char
  | '+' :: rest => rest
  | '-' :: rest => rest
  | cs => cs

/-- Whether characters are a decimal number with a point, perhaps with an exponent. -/
def isFraction (cs : List Char) : Bool :=
  let cs := dropSign cs
  let whole := cs.takeWhile Char.isDigit
  match cs.dropWhile Char.isDigit with
  | '.' :: rest =>
    let part := rest.takeWhile Char.isDigit
    let exponent := match rest.dropWhile Char.isDigit with
      | [] => true
      | e :: rest => (e == 'e' || e == 'E') && (Text.decimal? (dropSign rest)).isSome
    exponent && !(whole.isEmpty && part.isEmpty)
  | _ => false

/-- A whole number that 64 bits hold: without a sign, or negative with one. -/
def int? : List Char → Option Int
  | '-' :: digits => do
    let n ← Text.decimal? digits
    if n ≤ 9223372036854775808 then some (-(n : Int)) else none
  | '+' :: digits => do
    let n ← Text.decimal? digits
    if n < 18446744073709551616 then some n else none
  | digits => do
    let n ← Text.decimal? digits
    if n < 18446744073709551616 then some n else none

/-- Plain text, or what it stands for. -/
def ofPlain (cs : List Char) : Value :=
  if cs.any isSeparator then .text (String.ofList cs)
  else if isFraction cs then .fraction
  else match int? cs with
    | some n => .int n
    | none => .text (String.ofList cs)

/-- What characters without blanks around them stand for. -/
def ofChars (cs : List Char) : Value :=
  let plain := Value.text (String.ofList cs)
  match cs with
  | '[' :: _ => if isClosed cs then .list else plain
  | '\x7b' :: _ => if isClosed cs then .table else plain
  | '"' :: rest =>
    match quoted? (rest.length + 1) rest with
    | some (content, []) => .text (String.ofList content)
    | _ => plain
  | '\'' :: c :: ['\''] => .text c.toString
  | '\'' :: _ => plain
  | _ =>
    if cs = "true".toList then .bool true
    else if cs = "false".toList then .bool false
    else if (afterWord? "true".toList cs).isSome || (afterWord? "false".toList cs).isSome then plain
    else ofPlain cs

/-- What the text of a setting stands for. Blanks around it do not count, and plain text with
commas is a list. -/
def ofText (raw : String) : Value :=
  let cs := Text.trimChars raw.toList
  let structured := match cs with
    | c :: _ => c == '[' || c == '\x7b' || c == '"' || c == '\''
    | [] => false
  if cs.contains ',' && !structured then .list else ofChars cs

/-- The value as text, when it is text. -/
def asText? : Value → Option String
  | text s => some s
  | _ => none

/-- The value as a number of 32 bits, when it is one. -/
def asNat32? : Value → Option Nat
  | int n => if 0 ≤ n ∧ n < 4294967296 then some n.toNat else none
  | _ => none

end Value

end Folio.Settings
