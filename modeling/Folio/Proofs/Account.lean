import Folio.Account
import Folio.Proofs.Program.Effect
import Folio.Proofs.Store.Users
import Folio.Proofs.Text.Blank
import Folio.World

/-!
# Accounts over the world in memory

The effects of authenticating and of registering, with the problems that each can end in.
-/

namespace Folio.Account

open Program

variable {σ α : Type} {answer : (c : Call) → σ → c.Reply × σ}

theorem invalidLogin_visible : Text.isBlankText invalidLogin = false := by decide

def badLogin (trace : Option TraceId) : Problem where
  code := .unauthorized
  message := invalidLogin
  traceId := trace.map TraceId.render
  details := some (FormErrors.empty.add nonFieldErrors invalidLogin).details
  message_visible := invalidLogin_visible

def nameTaken (trace : Option TraceId) : Problem where
  code := .invalidRequest
  message := invalidRegistration
  traceId := trace.map TraceId.render
  details := some (FormErrors.empty.add "username" usernameTaken).details
  message_visible := by decide

def hasherFailure (trace : Option TraceId) (e : HasherError) : Problem where
  code := .internalError
  message := "password hasher error: " ++ e.message
  traceId := trace.map TraceId.render
  details := none
  message_visible := Text.isBlankText_append (by decide)

theorem effect_refuseLogin (trace : Option TraceId) (s : σ) :
    Service.effect answer (refuseLogin trace : Service α) s = .quiet (.error (badLogin trace)) s :=
  Service.effect_refuseWith
    (Problem.new_of_visible trace .unauthorized (badLogin trace).message_visible) _ s

theorem effect_refuseTaken (trace : Option TraceId) (s : σ) :
    Service.effect answer (refuseTaken trace : Service α) s = .quiet (.error (nameTaken trace)) s :=
  Service.effect_refuseWith
    (Problem.new_of_visible trace .invalidRequest (nameTaken trace).message_visible) _ s

theorem effect_onHasherError (trace : Option TraceId) (e : HasherError) (s : σ) :
    Service.effect answer (onHasherError trace e : Service α) s =
      .quiet (.error (hasherFailure trace e)) s :=
  Service.effect_refuse
    (Problem.new_of_visible trace .internalError (hasherFailure trace e).message_visible) s

variable (hasher : Password.Hasher) (salt : List UInt8)

/-- Whose credentials a username and a password are in a user store. -/
def authenticated (users : Users) (trace : Option TraceId) (credentials : LoginCredentials) :
    Except Problem UserId :=
  match Username.parse credentials.username with
  | .error _ => .error (badLogin trace)
  | .ok name =>
    match users.credentials? name with
    | none => .error (badLogin trace)
    | some stored =>
      match hasher.verify credentials.password stored.hash with
      | .error e => .error (hasherFailure trace e)
      | .ok false => .error (badLogin trace)
      | .ok true => .ok stored.user.id

/-- A login that fails is refused, or the hasher has failed. -/
theorem authenticated_error {users : Users} {trace : Option TraceId}
    {credentials : LoginCredentials} {problem : Problem}
    (failed : authenticated hasher users trace credentials = .error problem) :
    problem = badLogin trace ∨ ∃ e, problem = hasherFailure trace e := by
  unfold authenticated at failed
  split at failed
  · exact Or.inl (Except.error.inj failed).symm
  · split at failed
    · exact Or.inl (Except.error.inj failed).symm
    · split at failed
      · exact Or.inr ⟨_, (Except.error.inj failed).symm⟩
      · exact Or.inl (Except.error.inj failed).symm
      · cases failed

theorem effect_authenticate (trace : Option TraceId) (credentials : LoginCredentials) (w : World) :
    Service.effect (World.answer hasher salt) (authenticate trace credentials) w =
      .quiet (authenticated hasher w.users trace credentials) w := by
  unfold authenticate authenticated
  cases Username.parse credentials.username with
  | error e => exact effect_refuseLogin trace w
  | ok name =>
    dsimp only
    rw [Service.effect_ask_bind (fun _ => rfl)]
    dsimp only [World.answer]
    rw [Service.orElse_ok_bind]
    cases w.users.credentials? name with
    | none => exact effect_refuseLogin trace w
    | some stored =>
      dsimp only
      rw [Service.effect_ask_bind (fun _ => rfl)]
      dsimp only [World.answer]
      cases hasher.verify credentials.password stored.hash with
      | error e =>
        rw [Service.effect_bind, Service.orElse, effect_onHasherError]
        rfl
      | ok verified =>
        rw [Service.orElse_ok_bind]
        cases verified with
        | false => exact effect_refuseLogin trace w
        | true => rfl

/-- What registering does to a user store. -/
def registered (users : Users) (trace : Option TraceId) (fresh : UserId)
    (registration : Registration) : Except Problem User × Users :=
  if (users.findUsername? registration.username).isSome then (.error (nameTaken trace), users)
  else
    match hasher.hash salt registration.password with
    | .error e => (.error (hasherFailure trace e), users)
    | .ok hash =>
      match users.create ⟨fresh, registration.username⟩ hash with
      | (.ok (), created) => (.ok ⟨fresh, registration.username⟩, created)
      | (.error _, created) => (.error (nameTaken trace), created)

/-- Registering leaves the user store as it is, or adds a user under a free name. -/
theorem registered_cases (users : Users) (trace : Option TraceId) (fresh : UserId)
    (registration : Registration) :
    (∃ problem, registered hasher salt users trace fresh registration = (.error problem, users)) ∨
      ∃ hash, users.ids.get? registration.username = none ∧
        hasher.hash salt registration.password = .ok hash ∧
        registered hasher salt users trace fresh registration =
          (.ok ⟨fresh, registration.username⟩,
            users.added ⟨fresh, registration.username⟩ hash) := by
  unfold registered
  split
  · exact Or.inl ⟨_, rfl⟩
  · cases hasher.hash salt registration.password with
    | error e => exact Or.inl ⟨_, rfl⟩
    | ok hash =>
      dsimp only
      by_cases free : users.ids.get? registration.username = none
      · rw [Users.create_free ⟨fresh, registration.username⟩ hash free]
        exact Or.inr ⟨hash, free, rfl, rfl⟩
      · rw [Users.create_taken ⟨fresh, registration.username⟩ hash free]
        exact Or.inl ⟨_, rfl⟩

theorem registered_taken {users : Users} {registration : Registration} {user : User}
    (taken : users.findUsername? registration.username = some user) (trace : Option TraceId)
    (fresh : UserId) :
    registered hasher salt users trace fresh registration = (.error (nameTaken trace), users) := by
  unfold registered
  rw [taken]
  rfl

theorem registered_unhashed {users : Users} {registration : Registration} {e : HasherError}
    (absent : users.findUsername? registration.username = none)
    (failed : hasher.hash salt registration.password = .error e) (trace : Option TraceId)
    (fresh : UserId) :
    registered hasher salt users trace fresh registration =
      (.error (hasherFailure trace e), users) := by
  unfold registered
  rw [absent, failed]
  rfl

theorem registered_free {users : Users} {registration : Registration} {hash : PasswordHash}
    (absent : users.findUsername? registration.username = none)
    (free : users.ids.get? registration.username = none)
    (hashed : hasher.hash salt registration.password = .ok hash) (trace : Option TraceId)
    (fresh : UserId) :
    registered hasher salt users trace fresh registration =
      (.ok ⟨fresh, registration.username⟩, users.added ⟨fresh, registration.username⟩ hash) := by
  unfold registered
  rw [absent, hashed]
  dsimp only
  rw [Users.create_free ⟨fresh, registration.username⟩ hash free]
  rfl

theorem effect_register (trace : Option TraceId) (fresh : UserId) (registration : Registration)
    (w : World) :
    Service.effect (World.answer hasher salt) (register trace fresh registration) w =
      .quiet (registered hasher salt w.users trace fresh registration).1
        { w with users := (registered hasher salt w.users trace fresh registration).2 } := by
  unfold register registered
  rw [Service.effect_ask_bind (fun _ => rfl)]
  dsimp only [World.answer]
  rw [Service.orElse_ok_bind]
  split
  · rw [effect_refuseTaken]
  · rw [Service.effect_ask_bind (fun _ => rfl)]
    dsimp only [World.answer]
    cases hasher.hash salt registration.password with
    | error e =>
      rw [Service.effect_bind, Service.orElse, effect_onHasherError]
      rfl
    | ok hash =>
      rw [Service.orElse_ok_bind, Service.effect_ask_bind (fun _ => rfl)]
      dsimp only [World.answer]
      -- The username may be taken although nobody was found under it.
      by_cases free : w.users.ids.get? registration.username = none
      · rw [Users.create_free ⟨fresh, registration.username⟩ hash free]
        rfl
      · rw [Users.create_taken ⟨fresh, registration.username⟩ hash free]
        dsimp only
        rw [Service.effect_bind, Service.orElse, onUserError, effect_refuseTaken]
        rfl

end Folio.Account
