import Folio.Password.Base64
import Folio.Text.Digits
import Folio.Text.Split

/-!
# Password hash strings

The PHC string format: `$algorithm[$v=version][$name=value,…][$salt[$hash]]`. `Phc.render` writes
it and `Phc.parse` reads it.
-/

namespace Folio.Password

/-- What is wrong with a value in a hash string. -/
inductive ValueFault where
  | invalidChar (c : Char)
  | invalidFormat
  | malformed
  | tooLong
  | tooShort
  deriving DecidableEq, Repr

/-- The wording of a fault. -/
def ValueFault.message : ValueFault → String
  | invalidChar c => "contains invalid character: '" ++ c.toString ++ "'"
  | invalidFormat => "value format is invalid"
  | malformed => "value malformed"
  | tooLong => "value to long"
  | tooShort => "value to short"

/-- Why a hash string cannot be read. -/
inductive PhcError where
  | missingField
  | invalidName
  | invalidValue (fault : ValueFault)
  | tooManyParams
  | invalidSalt (fault : ValueFault)
  | base64Encoding
  | base64Length
  | outputTooShort
  | trailingData
  deriving DecidableEq, Repr

/-- The fewest bytes of a hash. -/
def leastOutput : Nat := 10

/-- The most bytes of a hash. -/
def mostOutput : Nat := 64

/-- The wording of an error. -/
def PhcError.message : PhcError → String
  | missingField => "password hash string missing field"
  | invalidName => "invalid parameter name"
  | invalidValue fault => "invalid parameter value: " ++ fault.message
  | tooManyParams => "maximum number of parameters reached"
  | invalidSalt fault => "salt invalid: " ++ fault.message
  | base64Encoding => "invalid Base64 encoding"
  | base64Length => "invalid Base64 length"
  | outputTooShort =>
    "output size too short, expected at least " ++ toString leastOutput ++ " bytes"
  | trailingData => "password hash string contains trailing characters"

/-- The parts of a hash string. -/
structure Phc where
  algorithm : List Char
  version : Option Nat
  params : List (List Char × List Char)
  salt : Option (List Char)
  hash : Option (List UInt8)
  deriving DecidableEq, Repr

namespace Phc

/-- The number of bytes in characters. -/
def byteSize (cs : List Char) : Nat :=
  (String.ofList cs).utf8ByteSize

/-- Whether a character may stand in the name of an algorithm or a parameter. -/
def isNameChar (c : Char) : Bool :=
  c.isDigit || c.isLower || c == '-'

/-- Whether a character may stand in a value or a salt. -/
def isValueChar (c : Char) : Bool :=
  c.isAlphanum || c == '/' || c == '+' || c == '.' || c == '-'

/-- Reads a name of 1 to 32 characters. -/
def name (cs : List Char) : Except PhcError (List Char) :=
  if !cs.isEmpty && byteSize cs ≤ 32 && cs.all isNameChar then .ok cs else .error .invalidName

/-- Reads a value of up to 64 characters. -/
def value (cs : List Char) : Except ValueFault (List Char) :=
  if byteSize cs > 64 then .error .tooLong
  else
    match cs.find? (!isValueChar ·) with
    | some c => .error (.invalidChar c)
    | none => .ok cs

/-- Reads a number of 32 bits without leading zeros. -/
def decimal (cs : List Char) : Except ValueFault Nat :=
  if cs.isEmpty then .error .malformed
  else
    match cs.find? (!Char.isDigit ·) with
    | some c => .error (.invalidChar c)
    | none =>
      if cs.head? = some '0' ∧ cs.length > 1 then .error .invalidFormat
      else
        let n := Text.decimalValue cs
        if n < 4294967296 then .ok n else .error .invalidFormat

/-- Reads a parameter: a name, one `=` and a value. -/
def param (cs : List Char) : Except PhcError (List Char × List Char) :=
  match Text.split (· == '=') cs with
  | [] => .error .invalidName
  | first :: more => do
    let first ← name first
    match more with
    | [] => .error (.invalidValue .malformed)
    | second :: rest =>
      let second ← (value second).mapError .invalidValue
      if rest.isEmpty then pure (first, second) else .error (.invalidValue .malformed)

/-- Reads parameters with commas between them. -/
def paramList (cs : List Char) : Except PhcError (List (List Char × List Char)) :=
  if byteSize cs > 127 then .error .tooManyParams
  else (Text.split (· == ',') cs).mapM param

/-- Reads a salt of 4 to 64 characters. -/
def saltField (cs : List Char) : Except PhcError (List Char) :=
  if byteSize cs < 4 then .error (.invalidSalt .tooShort)
  else if byteSize cs > 64 then .error (.invalidSalt .tooLong)
  else
    match cs.find? (!isValueChar ·) with
    | some c => .error (.invalidSalt (.invalidChar c))
    | none => .ok cs

/-- Reads a hash of 10 to 64 bytes. -/
def hashField (cs : List Char) : Except PhcError (List UInt8) :=
  if Base64.decodedSize (byteSize cs) > mostOutput then .error .base64Length
  else
    match Base64.decode? cs with
    | none => .error .base64Encoding
    | some bytes => if bytes.length < leastOutput then .error .outputTooShort else .ok bytes

/-- Reads the version, if the first field holds one. -/
def versionField (fields : List (List Char)) :
    Except PhcError (Option Nat × List (List Char)) :=
  match fields with
  | ('v' :: '=' :: digits) :: rest =>
    if digits.contains ',' then .ok (none, fields)
    else do
      let digits ← (value digits).mapError .invalidValue
      let n ← (decimal digits).mapError .invalidValue
      pure (some n, rest)
  | _ => .ok (none, fields)

/-- Reads the parameters, if the first field holds them. -/
def paramsField (fields : List (List Char)) :
    Except PhcError (List (List Char × List Char) × List (List Char)) :=
  match fields with
  | field :: rest =>
    if field.contains '=' then do pure (← paramList field, rest) else .ok ([], fields)
  | [] => .ok ([], [])

/-- Reads the salt and the hash; nothing may follow. -/
def saltAndHash :
    List (List Char) → Except PhcError (Option (List Char) × Option (List UInt8))
  | [] => .ok (none, none)
  | [salt] => do pure (some (← saltField salt), none)
  | salt :: hash :: rest => do
    let salt ← saltField salt
    let hash ← hashField hash
    if rest.isEmpty then pure (some salt, some hash) else .error .trailingData

/-- Reads a hash string. -/
def parse (s : String) : Except PhcError Phc :=
  match Text.split (· == '$') s.toList with
  | [] :: algorithm :: fields => do
    let algorithm ← name algorithm
    let (version, fields) ← versionField fields
    let (params, fields) ← paramsField fields
    let (salt, hash) ← saltAndHash fields
    pure ⟨algorithm, version, params, salt, hash⟩
  | _ => .error .missingField

/-- A parameter as text. -/
def renderParam (param : List Char × List Char) : List Char :=
  param.1 ++ '=' :: param.2

/-- A hash string from its parts. -/
def render (phc : Phc) : String :=
  String.ofList <|
    '$' :: phc.algorithm
      ++ (phc.version.map fun n => '$' :: 'v' :: '=' :: Nat.toDigits 10 n).getD []
      ++ (if phc.params.isEmpty then []
          else '$' :: [','].intercalate (phc.params.map renderParam))
      ++ (phc.salt.map fun salt => '$' :: salt).getD []
      ++ (phc.hash.map fun hash => '$' :: Base64.encode hash).getD []

end Phc

end Folio.Password
