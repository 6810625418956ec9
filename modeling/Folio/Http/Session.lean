import Folio.Account
import Folio.Http.Response

/-!
# Sessions

A session lives in a cookie: it names a user and the generation in which the user logged in, and
counts only while that is the user's current generation.
-/

namespace Folio.Http

/-- What a request has done to its session. -/
inductive SessionStatus where
  | unchanged
  | changed
  | renewed
  | purged
  deriving DecidableEq, Repr

/-- The session of a request. -/
structure Session where
  /-- Whether the request came with a session. -/
  presented : Bool
  content : SessionContent
  status : SessionStatus

namespace Session

/-- The session at the start of a request. -/
def start (presented : Option SessionContent) : Session :=
  ⟨presented.isSome, presented.getD [], .unchanged⟩

/-- The value under a key. -/
def get? (session : Session) (key : String) : Option Json :=
  session.content.lookup key

/-- Sets the value under a key, unless the session is purged. -/
def insert (session : Session) (key : String) (value : Json) : Session :=
  match session.status with
  | .purged => session
  | .renewed => { session with content := Json.insertMember key value session.content }
  | _ =>
    { session with content := Json.insertMember key value session.content, status := .changed }

/-- Gives the session a new key, unless it is purged. -/
def renew (session : Session) : Session :=
  match session.status with
  | .purged => session
  | _ => { session with status := .renewed }

/-- Empties the session for good. -/
def purge (session : Session) : Session :=
  { session with content := [], status := .purged }

/-- What the response has to do to the cookie. -/
def cookie? (session : Session) : Option CookieChange :=
  if session.presented then
    match session.status with
    | .unchanged => none
    | .changed | .renewed => some (.set session.content)
    | .purged => some .remove
  else if session.content.isEmpty then none
  else some (.set session.content)

end Session

/-- The key of the user's id. -/
def userIdKey : String := "user_id"

/-- The key of the session generation. -/
def generationKey : String := "session_generation"

/-- The user and the generation that the content of a session names, not yet checked. -/
def claimOf (content : SessionContent) :
    Except Json.DecodeError (Option (UserId × Generation)) :=
  match content.lookup userIdKey with
  | none => .ok none
  | some value =>
    match value.asString with
    | .error e => .error e
    | .ok raw =>
      match UserId.parse raw with
      | .error _ => .ok none
      | .ok id =>
        match content.lookup generationKey with
        | none => .ok none
        | some value =>
          match Generation.ofJson value with
          | .error e => .error e
          | .ok generation => .ok (some (id, generation))

/-- What a session is refused with when a value in it has the wrong type. -/
def unreadable (trace : Option TraceId) (e : Json.DecodeError) : Problem where
  code := .internalError
  message := "failed to read session: " ++ e.message
  traceId := trace.map TraceId.render
  details := none
  message_visible := Text.isBlankText_append (by decide)

namespace Session

variable {m : Type → Type} [Monad m]

/-- The user whom a session authenticates, and the session that is left: one that no longer
authenticates anybody is purged. -/
def check (logins : LoginService m) (trace : Option TraceId) (session : Session) :
    m (Except Problem (Option UserId) × Session) :=
  match claimOf session.content with
  | .error e => pure (.error (unreadable trace e), session)
  | .ok none => pure (.ok none, session)
  | .ok (some (id, generation)) => do
    match ← logins.sessionGeneration id with
    | .error problem => pure (.error problem, session)
    | .ok current =>
      if current = some generation then pure (.ok (some id), session)
      else pure (.ok none, session.purge)

/-- Ends every session of the user and purges this one, also when that fails. -/
def logOut (logins : LoginService m) (trace : Option TraceId) (session : Session) :
    m (Except Problem Unit × Session) := do
  let (user, session) ← session.check logins trace
  match user with
  | .error problem => pure (.error problem, session.purge)
  | .ok none => pure (.ok (), session.purge)
  | .ok (some id) =>
    let revoked ← logins.revokeSessions id
    pure (revoked, session.purge)

end Session

/-- A program that reads and changes a session and may end with a problem; what it did to the
session stays done. -/
abbrev Handler (α : Type) := ExceptT Problem (StateT Session Program) α

namespace Handler

variable {α : Type}

/-- Runs a service. -/
def ofService (service : Service α) : Handler α :=
  ExceptT.mk (StateT.lift service.run)

/-- Changes the session. -/
def change (f : Session → Session) : Handler Unit :=
  ExceptT.lift (modify f)

/-- The user whom the session authenticates; a session that no longer does is purged. -/
def userId (trace : Option TraceId) : Handler (Option UserId) :=
  ExceptT.mk fun session => session.check (Account.loginService trace) trace

/-- The user whom the session authenticates; there has to be one. -/
def requireUserId (trace : Option TraceId) : Handler UserId := do
  match ← userId trace with
  | some id => pure id
  | none => ofService (Service.refuse trace .unauthorized "login required")

/-- Lets the session authenticate a user. -/
def logIn (id : UserId) (generation : Generation) : Handler Unit := do
  change Session.renew
  change fun session => session.insert userIdKey (.str id.render)
  change fun session => session.insert generationKey generation.toJson

/-- Ends every session of the user and this one. -/
def logOut (trace : Option TraceId) : Handler Unit :=
  ExceptT.mk fun session => session.logOut (Account.loginService trace) trace

end Handler

end Folio.Http
