import Folio.Json.Decode
import Folio.Text.Blank
import Folio.Text.Word
import Folio.Uuid

/-!
# Users

A user has an id and a username. Usernames are kept without blanks around them: up to 150 word
characters or one of `@`, `.`, `+` and `-`.
-/

namespace Folio

/-- Why an id or a username is refused. -/
inductive UserError where
  | emptyId
  | invalidId
  | emptyUsername
  | usernameTooLong
  | usernameInvalidCharacters
  deriving DecidableEq, Repr

/-- The largest number of characters in a username. -/
def usernameLimit : Nat := 150

/-- The wording of an error. -/
def UserError.message : UserError → String
  | emptyId => "user id must not be empty"
  | invalidId => "user id must be a valid UUID"
  | emptyUsername => "username must not be empty"
  | usernameTooLong => "username must be at most " ++ toString usernameLimit ++ " characters"
  | usernameInvalidCharacters =>
    "username may only contain letters, numbers, and @/./+/-/_ characters"

/-- What identifies a user. -/
structure UserId where
  uuid : Uuid
  deriving DecidableEq, Repr

namespace UserId

/-- Reads an id from a UUID text without blanks around it. -/
def parse (raw : String) : Except UserError UserId :=
  if raw = "" then .error .emptyId
  else if Text.trim raw ≠ raw then .error .invalidId
  else
    match Uuid.parse? raw with
    | some uuid => .ok ⟨uuid⟩
    | none => .error .invalidId

/-- The printed form of an id. -/
def render (id : UserId) : String :=
  id.uuid.render

/-- An id as JSON. -/
def toJson (id : UserId) : Json :=
  .str id.render

/-- Reads an id from JSON. -/
def ofJson (value : Json) : Except Json.DecodeError UserId := do
  (parse (← value.asString)).mapError fun e => .refused e.message

end UserId

/-- Whether a character may stand in a username. -/
def isUsernameChar (c : Char) : Bool :=
  Text.isWord c || c == '.' || c == '@' || c == '+' || c == '-'

/-- The name a user is known by. -/
structure Username where
  text : String
  nonempty : text ≠ ""
  short : text.length ≤ usernameLimit
  allowed : text.toList.all isUsernameChar = true
  deriving DecidableEq

namespace Username

/-- Reads a username; blanks around it are dropped. -/
def parse (raw : String) : Except UserError Username :=
  let text := Text.trim raw
  if empty : text = "" then .error .emptyUsername
  else if long : usernameLimit < text.length then .error .usernameTooLong
  else if allowed : text.toList.all isUsernameChar = true then
    .ok ⟨text, empty, Nat.le_of_not_lt long, allowed⟩
  else .error .usernameInvalidCharacters

/-- Reads a username that has no blanks around it. -/
def verbatim? (raw : String) : Option Username :=
  match parse raw with
  | .ok name => if name.text = raw then some name else none
  | .error _ => none

/-- Reads a username from JSON. -/
def ofJson (value : Json) : Except Json.DecodeError Username := do
  (parse (← value.asString)).mapError fun e => .refused e.message

end Username

/-- Someone with an account. -/
structure User where
  id : UserId
  username : Username
  deriving DecidableEq

namespace User

/-- Reads a user; a bad id is reported before a bad username. -/
def parse (id username : String) : Except UserError User := do
  let id ← UserId.parse id
  let username ← Username.parse username
  pure ⟨id, username⟩

/-- A user as JSON. -/
def toJson (user : User) : Json :=
  .obj [("id", user.id.toJson), ("username", .str user.username.text)]

/-- Reads the members of a user one after the other; no others are known. -/
def ofMembers (id : Option UserId) (username : Option Username) :
    List (String × Json) → Except Json.DecodeError User
  | [] =>
    match id, username with
    | none, _ => .error (.missingField "id")
    | some _, none => .error (.missingField "username")
    | some id, some username => .ok ⟨id, username⟩
  | (name, value) :: rest =>
    if name = "id" then
      if id.isSome then .error (.duplicateField "id")
      else do ofMembers (some (← UserId.ofJson value)) username rest
    else if name = "username" then
      if username.isSome then .error (.duplicateField "username")
      else do ofMembers id (some (← Username.ofJson value)) rest
    else .error (.unknownField name ["id", "username"])

/-- Reads a user from the items of an array. -/
def ofItems : List Json → Except Json.DecodeError User
  | [] => .error (.invalidLength 0 "struct User with 2 elements")
  | [id] => do
    let _ ← UserId.ofJson id
    .error (.invalidLength 1 "struct User with 2 elements")
  | id :: username :: rest => do
    let id ← UserId.ofJson id
    let username ← Username.ofJson username
    if rest.isEmpty then pure ⟨id, username⟩
    else .error (.invalidLength (rest.length + 2) "fewer elements in array")

/-- Reads a user from an object with exactly its two members, or from an array of the two. -/
def ofJson : Json → Except Json.DecodeError User
  | .obj members => ofMembers none none members
  | .arr items => ofItems items
  | other => .error (.invalidType other "struct User")

end User

end Folio
