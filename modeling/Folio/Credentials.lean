import Folio.FormErrors
import Folio.User

/-!
# Credentials

What a visitor submits to log in, what a visitor submits to register, and the hash that is kept of
a password.
-/

namespace Folio

/-- Why login credentials are refused. -/
inductive LoginError where
  | emptyUsername
  | emptyPassword
  deriving DecidableEq, Repr

/-- The wording of an error. -/
def LoginError.message : LoginError → String
  | emptyUsername => "username must not be empty"
  | emptyPassword => "password must not be empty"

/-- A username, not yet checked, and a password. -/
structure LoginCredentials where
  username : String
  password : String
  deriving DecidableEq, Repr

/-- Credentials from two form fields: blanks around the username are dropped, the password is
taken as it is. -/
def LoginCredentials.ofFields (username password : String) : Except LoginError LoginCredentials :=
  let name := Text.trim username
  if name = "" then .error .emptyUsername
  else if password = "" then .error .emptyPassword
  else .ok ⟨name, password⟩

/-- The messages for the fields of a login form. -/
def loginFormErrors (username password : String) : FormErrors :=
  (FormErrors.empty.addIf (Text.trim username == "") "username" fieldRequired).addIf
    (password == "") "password" fieldRequired

/-- A registration that can be carried out. -/
structure Registration where
  username : Username
  password : String
  deriving DecidableEq

namespace Registration

/-- The message for a username that is refused. -/
def usernameMessage : UserError → String
  | .emptyUsername => fieldRequired
  | .usernameTooLong => usernameTooLong usernameLimit
  | _ => invalidUsername

/-- The messages for the two password fields. -/
def passwordErrors (errors : FormErrors) (password1 password2 : String) : FormErrors :=
  let errors := errors.addIf (password1 == "") "password1" fieldRequired
  if password2 = "" then errors.add "password2" fieldRequired
  else errors.addIf (password1 != "" && password1 != password2) "password2" passwordMismatch

/-- A registration from three form fields; every field's errors are reported together. -/
def ofFields (username password1 password2 : String) : Except FormErrors Registration :=
  match Username.parse username with
  | .ok name =>
    let errors := passwordErrors .empty password1 password2
    if errors.isEmpty then .ok ⟨name, password1⟩ else .error errors
  | .error e =>
    .error (passwordErrors (FormErrors.empty.add "username" (usernameMessage e))
      password1 password2)

/-- What the new user logs in with. -/
def credentials (registration : Registration) : LoginCredentials :=
  ⟨registration.username.text, registration.password⟩

end Registration

/-- What is kept of a password. -/
structure PasswordHash where
  encoded : String
  deriving DecidableEq, Repr

/-- How a password hash appears in logs. -/
def PasswordHash.redacted (_ : PasswordHash) : String := "PasswordHash(<redacted>)"

/-- A user together with the hash of the password. -/
structure StoredCredentials where
  user : User
  hash : PasswordHash
  deriving DecidableEq

end Folio
