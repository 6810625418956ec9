import Folio.Program

/-!
# Accounts

Registration, login and the revocation of sessions, on top of the user store and the password
hasher.
-/

namespace Folio

/-- What a session asks about the logins of its user. -/
structure LoginService (m : Type → Type) where
  /-- The current session generation of a user, if there is such a user. -/
  sessionGeneration : UserId → m (Except Problem (Option Generation))
  /-- Ends every session of a user. -/
  revokeSessions : UserId → m (Except Problem Unit)

namespace Account

variable {α : Type}

/-- What a registration form is refused with. -/
def invalidRegistration : String := "registration form is invalid"

/-- The username of a registration is not free. -/
def refuseTaken (trace : Option TraceId) : Service α :=
  Service.refuseWith trace .invalidRequest invalidRegistration
    (FormErrors.empty.add "username" usernameTaken).details

/-- Username and password do not authenticate. -/
def refuseLogin (trace : Option TraceId) : Service α :=
  Service.refuseWith trace .unauthorized invalidLogin
    (FormErrors.empty.add nonFieldErrors invalidLogin).details

/-- What a failure of the user store becomes. -/
def onUserError (trace : Option TraceId) : UserStoreError → Service α
  | .connection message =>
    Service.refuse trace .serviceUnavailable ("user repository unavailable: " ++ message)
  | .query message => Service.refuse trace .internalError ("user repository error: " ++ message)
  | .usernameTaken _ => refuseTaken trace

/-- What a failure of the password hasher becomes. -/
def onHasherError (trace : Option TraceId) (e : HasherError) : Service α :=
  Service.refuse trace .internalError ("password hasher error: " ++ e.message)

/-- The id of the user whom the credentials belong to. -/
def authenticate (trace : Option TraceId) (credentials : LoginCredentials) : Service UserId := do
  match Username.parse credentials.username with
  | .error _ => refuseLogin trace
  | .ok username =>
    let reply ← Service.ask (.findCredentials username)
    let stored ← Service.orElse reply (onUserError trace)
    match stored with
    | none => refuseLogin trace
    | some stored =>
      let reply ← Service.ask (.verifyPassword credentials.password stored.hash)
      let verified ← Service.orElse reply (onHasherError trace)
      if verified then pure stored.user.id else refuseLogin trace

/-- The current session generation of a user, if there is such a user. -/
def sessionGeneration (trace : Option TraceId) (id : UserId) : Service (Option Generation) := do
  let reply ← Service.ask (.readGeneration id)
  Service.orElse reply (onUserError trace)

/-- Ends every session of a user. -/
def revokeSessions (trace : Option TraceId) (id : UserId) : Service Unit := do
  let reply ← Service.ask (.advanceGeneration id)
  Service.orElse reply (onUserError trace)

/-- The logins of the user store. -/
def loginService (trace : Option TraceId) : LoginService Program where
  sessionGeneration id := (sessionGeneration trace id).run
  revokeSessions id := (revokeSessions trace id).run

/-- Creates a user under a fresh id. -/
def register (trace : Option TraceId) (fresh : UserId) (registration : Registration) :
    Service User := do
  let reply ← Service.ask (.findUsername registration.username)
  let existing ← Service.orElse reply (onUserError trace)
  if existing.isSome then refuseTaken trace
  else
    let reply ← Service.ask (.hashPassword registration.password)
    let hash ← Service.orElse reply (onHasherError trace)
    let user : User := ⟨fresh, registration.username⟩
    let reply ← Service.ask (.createUser user hash)
    Service.orElse reply (onUserError trace)
    pure user

end Account

end Folio
