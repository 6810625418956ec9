import Folio.Credentials
import Folio.Password.Argon2
import Folio.Password.Phc
import Folio.Store.Error
import Folio.Text.Utf8

/-!
# The password hasher

A hasher makes hash strings and checks passwords against them. `Hasher.argon2` does so with any
tag function in the place of Argon2; `Hasher.standard` uses Argon2 itself.
-/

namespace Folio.Password

/-- Makes and checks password hashes. -/
structure Hasher where
  /-- Hashes a password under a salt. -/
  hash (salt : List UInt8) (password : String) : Except HasherError PasswordHash
  /-- Checks a password against a hash. -/
  verify (password : String) (hash : PasswordHash) : Except HasherError Bool

/-- A tag from parameters, a password and a salt. -/
abbrev TagFunction := Argon2.Params → List UInt8 → List UInt8 → List UInt8

namespace Argon2

/-- The variant with a name. -/
def Variant.ofName? (name : List Char) : Option Variant :=
  if name = "argon2d".toList then some .d
  else if name = "argon2i".toList then some .i
  else if name = "argon2id".toList then some .id
  else none

/-- The version with a number; the newest when there is none. -/
def Version.ofNumber? : Option Nat → Option Version
  | none => some .v19
  | some 16 => some .v16
  | some 19 => some .v19
  | some _ => none

/-- Costs that a hash string does not name. -/
def defaults : Params := ⟨.id, .v19, 19456, 2, 1, [], 32⟩

/-- Sets one parameter of a hash string; an unknown name or a bad value is refused. -/
def Params.set? (p : Params) (param : List Char × List Char) : Option Params :=
  let (name, value) := param
  if name = ['m'] then (Phc.decimal value).toOption.map fun n => { p with memory := n }
  else if name = ['t'] then (Phc.decimal value).toOption.map fun n => { p with passes := n }
  else if name = ['p'] then (Phc.decimal value).toOption.map fun n => { p with lanes := n }
  else if name = "keyid".toList then
    (Base64.decode? value).bind fun id => if id.length ≤ 8 then some p else none
  else if name = "data".toList then
    (Base64.decode? value).bind fun data =>
      if data.length ≤ 32 then some { p with data } else none
  else none

/-- Whether parameters are within the algorithm's limits. -/
def Params.valid (p : Params) : Bool :=
  8 ≤ p.memory && 8 * p.lanes ≤ p.memory && 1 ≤ p.passes && 1 ≤ p.lanes && p.lanes < 16777216

/-- The parameters in a hash string, for a hash of `size` bytes. -/
def Params.ofPhc? (phc : Phc) (size : Nat) : Option Params := do
  let variant ← Variant.ofName? phc.algorithm
  let version ← Version.ofNumber? phc.version
  let p ← phc.params.foldlM Params.set? { defaults with variant, version, size }
  if p.valid then some p else none

end Argon2

namespace Hasher

/-- The salt in a hash string: at least eight bytes. -/
def saltBytes? (salt : List Char) : Option (List UInt8) :=
  (Base64.decode? salt).bind fun bytes => if 8 ≤ bytes.length then some bytes else none

/-- Whether a password has the hash in a hash string; false when that cannot be computed. -/
def verifyPhc (tag : TagFunction) (password : String) (phc : Phc) : Bool :=
  (do
    let salt ← phc.salt
    let expected ← phc.hash
    let p ← Argon2.Params.ofPhc? phc expected.length
    let salt ← saltBytes? salt
    pure (tag p (Text.utf8 password) salt == expected)).getD false

/-- The hash string of a password under a salt. -/
def hashPhc (tag : TagFunction) (salt : List UInt8) (password : String) : Phc :=
  let p := Argon2.defaults
  { algorithm := "argon2id".toList
    version := some p.version.number
    params := [(['m'], Nat.toDigits 10 p.memory), (['t'], Nat.toDigits 10 p.passes),
      (['p'], Nat.toDigits 10 p.lanes)]
    salt := some (Base64.encode salt)
    hash := some (tag p (Text.utf8 password) salt) }

/-- The hasher over a tag function. -/
def argon2 (tag : TagFunction) : Hasher where
  hash salt password := .ok ⟨(hashPhc tag salt password).render⟩
  verify password hash :=
    match Phc.parse hash.encoded with
    | .ok phc => .ok (verifyPhc tag password phc)
    | .error e => .error (.malformedHash e.message)

/-- The hasher over Argon2. -/
def standard : Hasher := argon2 Argon2.tag

end Hasher

end Folio.Password
