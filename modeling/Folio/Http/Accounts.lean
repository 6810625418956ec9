import Folio.Http.Session

/-!
# Account pages

The pages to register, log in and log out.
-/

namespace Folio.Http

/-- Where account actions lead. -/
def homePath : String := "/"

/-- Where a login leads: to `next` unless it is empty. -/
def nextOrHome (next : String) : String :=
  if next = "" then homePath else next

/-- The fields of the registration form. -/
def registrationFields : List String := ["username", "password1", "password2"]

/-- The fields of the login form. -/
def loginFields : List String := ["username", "password"]

/-- What the registration page shows. -/
def registrationForm : Json :=
  .obj [("fields", .strs registrationFields)]

/-- What the login page shows. -/
def loginForm (next : String) : Json :=
  .obj [("fields", .strs loginFields), ("next", .str next)]

namespace Handler

variable {α : Type}

/-- Ends with the problem of an invalid form. -/
def refuseForm (trace : Option TraceId) (errors : FormErrors) (message : String) : Handler α :=
  ofService (Service.refuseWith trace .invalidRequest message errors.details)

/-- Starts a session in the user's current generation. -/
def startSession (trace : Option TraceId) (id : UserId) : Handler Unit := do
  match ← ofService (Account.sessionGeneration trace id) with
  | some generation => logIn id generation
  | none => ofService (Service.refuse trace .unauthorized invalidLogin)

/-- Registers a user under a fresh id and logs the user in. -/
def register (trace : Option TraceId) (fresh : UserId) (form : List (String × String)) :
    Handler Response := do
  match Registration.ofFields (field form "username") (field form "password1")
      (field form "password2") with
  | .error errors => refuseForm trace errors Account.invalidRegistration
  | .ok registration =>
    let _ ← ofService (Account.register trace fresh registration)
    let id ← ofService (Account.authenticate trace registration.credentials)
    startSession trace id
    pure (Response.redirect homePath)

/-- Logs a user in. -/
def login (trace : Option TraceId) (next : String) (form : List (String × String)) :
    Handler Response := do
  let username := field form "username"
  let password := field form "password"
  let errors := loginFormErrors username password
  if !errors.isEmpty then refuseForm trace errors "login form is invalid"
  else
    match LoginCredentials.ofFields username password with
    | .error e => ofService (Service.refuse trace .invalidRequest e.message)
    | .ok credentials =>
      let id ← ofService (Account.authenticate trace credentials)
      startSession trace id
      pure (Response.redirect (nextOrHome next))

/-- Logs the user out. -/
def logout (trace : Option TraceId) : Handler Response := do
  logOut trace
  pure (Response.redirect homePath)

end Handler

end Folio.Http
