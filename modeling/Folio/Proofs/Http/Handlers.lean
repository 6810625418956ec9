import Folio.Http.App
import Folio.Proofs.Account
import Folio.Proofs.Http.Session
import Folio.Proofs.Profile

/-!
# Effects of the handlers

What each page comes to over the world in memory: its answer, the session it leaves, the stores it
changes and the events it announces.
-/

namespace Folio.Http.Handler

open Program

variable (hasher : Password.Hasher) (salt : List UInt8)

/-! ### Account pages -/

def invalidForm (trace : Option TraceId) (errors : FormErrors) (message : String)
    (visible : Text.isBlankText message = false) : Problem :=
  ⟨.invalidRequest, message, trace.map TraceId.render, some errors.details, visible⟩

theorem effect_refuseForm {α σ : Type} {answer : (c : Call) → σ → c.Reply × σ}
    (trace : Option TraceId) (errors : FormErrors) (message : String)
    (visible : Text.isBlankText message = false) (session : Session) (s : σ) :
    effect answer (refuseForm trace errors message : Handler α) session s =
      .quiet (.error (invalidForm trace errors message visible), session) s := by
  unfold refuseForm
  rw [effect_ofService,
    Service.effect_refuseWith (Problem.new_of_visible trace .invalidRequest visible)]
  rfl

def missingGeneration (trace : Option TraceId) : Problem :=
  ⟨.unauthorized, invalidLogin, trace.map TraceId.render, none, Account.invalidLogin_visible⟩

theorem effect_startSession (trace : Option TraceId) (id : UserId) (session : Session)
    (w : World) :
    effect (World.answer hasher salt) (startSession trace id) session w =
      match w.users.generation? id with
      | some generation => .quiet (.ok (), entered id generation session) w
      | none => .quiet (.error (missingGeneration trace), session) w := by
  unfold startSession
  rw [effect_bind, effect_ofService, effect_sessionGeneration, Effect.quiet_andThen,
    Effect.quiet_andThen]
  dsimp only
  cases w.users.generation? id with
  | some generation => exact effect_logIn id generation session w
  | none =>
    exact effect_refuse
      (Problem.new_of_visible trace .unauthorized (missingGeneration trace).message_visible)
      session w

/-- What comes of credentials: a redirection with a session for their user, or a problem. -/
def admitted (users : Users) (trace : Option TraceId) (credentials : LoginCredentials)
    (target : String) (session : Session) : Except Problem Response × Session :=
  match Account.authenticated hasher users trace credentials with
  | .error problem => (.error problem, session)
  | .ok id =>
    match users.generation? id with
    | some generation => (.ok (.redirect target), entered id generation session)
    | none => (.error (missingGeneration trace), session)

/-- Registration and login end alike: by authenticating and opening a session. -/
theorem effect_admit (trace : Option TraceId) (credentials : LoginCredentials) (target : String)
    (session : Session) (w : World) :
    effect (World.answer hasher salt) (do
      let id ← ofService (Account.authenticate trace credentials)
      startSession trace id
      pure (Response.redirect target) : Handler Response) session w =
      .quiet (admitted hasher w.users trace credentials target session) w := by
  unfold admitted
  rw [effect_bind, effect_ofService, Account.effect_authenticate, Effect.quiet_andThen,
    Effect.quiet_andThen]
  cases Account.authenticated hasher w.users trace credentials with
  | error problem => rfl
  | ok id =>
    dsimp only
    rw [effect_bind, effect_startSession]
    cases w.users.generation? id with
    | some generation => rfl
    | none => rfl

theorem effect_register (trace : Option TraceId) (fresh : UserId) (form : List (String × String))
    (session : Session) (w : World) :
    effect (World.answer hasher salt) (register trace fresh form) session w =
      match Registration.ofFields (field form "username") (field form "password1")
          (field form "password2") with
      | .error errors =>
        .quiet (.error (invalidForm trace errors Account.invalidRegistration (by decide)), session) w
      | .ok registration =>
        match Account.registered hasher salt w.users trace fresh registration with
        | (.error problem, users) => .quiet (.error problem, session) { w with users }
        | (.ok _, users) =>
          .quiet (admitted hasher users trace registration.credentials homePath session)
            { w with users } := by
  unfold register
  cases Registration.ofFields (field form "username") (field form "password1")
      (field form "password2") with
  | error errors => exact effect_refuseForm trace errors _ _ session w
  | ok registration =>
    dsimp only
    rw [effect_bind, effect_ofService, Account.effect_register, Effect.quiet_andThen,
      Effect.quiet_andThen]
    obtain ⟨result, users⟩ := Account.registered hasher salt w.users trace fresh registration
    cases result with
    | error problem => rfl
    | ok user => exact effect_admit hasher salt trace registration.credentials homePath session _

def refusedLogin (trace : Option TraceId) (e : LoginError) : Problem where
  code := .invalidRequest
  message := e.message
  traceId := trace.map TraceId.render
  details := none
  message_visible := by cases e <;> decide

theorem effect_login (trace : Option TraceId) (next : String) (form : List (String × String))
    (session : Session) (w : World) :
    effect (World.answer hasher salt) (login trace next form) session w =
      .quiet
        (if !(loginFormErrors (field form "username") (field form "password")).isEmpty then
          (.error (invalidForm trace
            (loginFormErrors (field form "username") (field form "password"))
            "login form is invalid" (by decide)), session)
        else
          match LoginCredentials.ofFields (field form "username") (field form "password") with
          | .error e => (.error (refusedLogin trace e), session)
          | .ok credentials =>
            admitted hasher w.users trace credentials (nextOrHome next) session) w := by
  unfold login
  dsimp only
  split
  · exact effect_refuseForm trace _ _ _ session w
  · cases LoginCredentials.ofFields (field form "username") (field form "password") with
    | error e =>
      exact effect_refuse
        (Problem.new_of_visible trace .invalidRequest (refusedLogin trace e).message_visible)
        session w
    | ok credentials => exact effect_admit hasher salt trace credentials _ session w

/-- What logging out does after the check. -/
def leave (trace : Option TraceId) : Except Problem (Option UserId) × Session →
    Program (Except Problem Response × Session)
  | (.ok (some id), session) => (Account.revokeSessions trace id).run.bind fun result =>
    .done (result.map fun _ => .redirect homePath, session.purge)
  | (.ok none, session) => .done (.ok (.redirect homePath), session.purge)
  | (.error problem, session) => .done (.error problem, session.purge)

theorem run_logout (trace : Option TraceId) (session : Session) :
    (logout trace).run.run session = ((userId trace).run.run session).bind (leave trace) := by
  unfold logout
  rw [run_bind, run_logOut]
  unfold revokeAll
  rw [run_bind, Program.bind_assoc, Program.bind_assoc]
  congr 1
  funext result
  obtain ⟨result, left⟩ := result
  cases result with
  | error problem => rfl
  | ok found =>
    cases found with
    | none => rfl
    | some id =>
      dsimp only [andThen]
      rw [run_ofService, Program.bind_assoc, leave]
      congr 1
      funext revoked
      cases revoked with
      | ok => rfl
      | error problem => rfl

theorem purge_checked (trace : Option TraceId) (users : Users) (session : Session) :
    (checked trace users session).2.purge = session.purge := by
  unfold checked
  split
  · rfl
  · rfl
  · split
    · rfl
    · rfl

/-- Logging out advances the generation of the user whom the session authenticates, and leaves the
session purged in every case. -/
theorem effect_logout (trace : Option TraceId) (session : Session) (w : World) :
    effect (World.answer hasher salt) (logout trace) session w =
      match (checked trace w.users session).1 with
      | .ok (some id) =>
        .quiet (.ok (.redirect homePath), session.purge) { w with users := w.users.advance id }
      | .ok none => .quiet (.ok (.redirect homePath), session.purge) w
      | .error problem => .quiet (.error problem, session.purge) w := by
  have steps : effect (World.answer hasher salt) (logout trace) session w =
      (effect (World.answer hasher salt) (userId trace) session w).andThen fun result w =>
        Program.effect (World.answer hasher salt) (leave trace result) w := by
    unfold effect
    rw [run_logout]
    exact Program.effect_bind _ _ _ w
  rw [steps, effect_userId, Effect.quiet_andThen, ← purge_checked trace w.users session]
  obtain ⟨result, left⟩ := checked trace w.users session
  match result with
  | .error problem => rfl
  | .ok none => rfl
  | .ok (some id) => rfl

/-! ### Profile pages -/

theorem effect_username {σ : Type} {answer : (c : Call) → σ → c.Reply × σ}
    (trace : Option TraceId) (segment : String) (session : Session) (s : σ) :
    effect answer (username trace segment) session s =
      match Username.verbatim? segment with
      | some name => .quiet (.ok name, session) s
      | none => .quiet (.error (Profile.unknownUser trace segment), session) s := by
  unfold username
  cases Username.verbatim? segment with
  | some name => rfl
  | none =>
    dsimp only
    rw [effect_ofService, Profile.effect_refuseUnknown]
    rfl

theorem effect_profile (trace : Option TraceId) (segment : String) (session : Session)
    (w : World) :
    effect (World.answer hasher salt) (profile trace segment) session w =
      match Username.verbatim? segment with
      | none => .quiet (.error (Profile.unknownUser trace segment), session) w
      | some name =>
        match checked trace w.users session with
        | (.error problem, session) => .quiet (.error problem, session) w
        | (.ok viewer, session) =>
          match w.users.findUsername? name with
          | none => .quiet (.error (Profile.unknownUser trace name.text), session) w
          | some user => .quiet (.ok (.ok (Profile.pageOf w user viewer).toJson), session) w := by
  unfold profile
  rw [effect_bind, effect_username]
  cases Username.verbatim? segment with
  | none => rfl
  | some name =>
    dsimp only
    rw [Effect.quiet_andThen]
    dsimp only
    rw [effect_bind, effect_userId, Effect.quiet_andThen]
    obtain ⟨result, session⟩ := checked trace w.users session
    cases result with
    | error problem => rfl
    | ok viewer =>
      dsimp only
      rw [effect_bind, effect_ofService, Profile.effect_page]
      cases w.users.findUsername? name with
      | none => rfl
      | some user => rfl

/-- What comes of a visit that acts on the user whose username is in its path: somebody has to be
logged in, and both have to be stored. -/
def addressed (trace : Option TraceId) (segment : String) (session : Session) (w : World)
    (act : User → User → Session → Effect (Except Problem Response × Session) World) :
    Effect (Except Problem Response × Session) World :=
  match checked trace w.users session with
  | (.error problem, session) => .quiet (.error problem, session) w
  | (.ok none, session) => .quiet (.error (loginRequired trace), session) w
  | (.ok (some id), session) =>
    match Username.verbatim? segment with
    | none => .quiet (.error (Profile.unknownUser trace segment), session) w
    | some name =>
      match w.users.findUsername? name, w.users.find? id with
      | none, _ => .quiet (.error (Profile.unknownUser trace name.text), session) w
      | some _, none => .quiet (.error (Profile.vanishedUser trace), session) w
      | some following, some follower => act follower following session

/-- Such a visit is refused, or acts for the user whom its session authenticates. -/
theorem addressed_cases (trace : Option TraceId) (segment : String) (session : Session) (w : World)
    (act : User → User → Session → Effect (Except Problem Response × Session) World) :
    (∃ problem, addressed trace segment session w act =
        .quiet (.error problem, (checked trace w.users session).2) w) ∨
      ∃ id name follower following, authenticated w.users session.content = some id ∧
        Username.verbatim? segment = some name ∧ w.users.findUsername? name = some following ∧
        w.users.find? id = some follower ∧
        addressed trace segment session w act = act follower following session := by
  unfold addressed
  generalize looked : checked trace w.users session = result
  obtain ⟨answer, left⟩ := result
  cases answer with
  | error problem => exact Or.inl ⟨_, rfl⟩
  | ok id =>
    cases id with
    | none => exact Or.inl ⟨_, rfl⟩
    | some id =>
      have valid : authenticated w.users session.content = some id :=
        checked_some.mp (congrArg Prod.fst looked)
      -- A session that authenticates somebody is left as it came.
      have kept : session = left :=
        congrArg Prod.snd ((checked_of_authenticated trace valid).symm.trans looked)
      subst kept
      dsimp only
      cases read : Username.verbatim? segment with
      | none => exact Or.inl ⟨_, rfl⟩
      | some name =>
        dsimp only
        cases target : w.users.findUsername? name with
        | none => exact Or.inl ⟨_, rfl⟩
        | some following =>
          cases source : w.users.find? id with
          | none => exact Or.inl ⟨_, rfl⟩
          | some follower =>
            exact Or.inr ⟨id, name, follower, following, valid, rfl, target, source, rfl⟩

theorem addressed_anonymous {trace : Option TraceId} {session : Session} {w : World}
    (anonymous : (checked trace w.users session).1 = .ok none) (segment : String)
    (act : User → User → Session → Effect (Except Problem Response × Session) World) :
    addressed trace segment session w act =
      .quiet (.error (loginRequired trace), (checked trace w.users session).2) w := by
  unfold addressed
  generalize checked trace w.users session = result at anonymous ⊢
  obtain ⟨answer, left⟩ := result
  cases anonymous
  rfl

theorem addressed_unknown {segment : String} {session : Session} {w : World} {id : UserId}
    (trace : Option TraceId) (valid : authenticated w.users session.content = some id)
    (unknown : ∀ name, Username.verbatim? segment = some name → w.users.findUsername? name = none)
    (act : User → User → Session → Effect (Except Problem Response × Session) World) :
    ∃ name, addressed trace segment session w act =
      .quiet (.error (Profile.unknownUser trace name), session) w := by
  unfold addressed
  rw [checked_of_authenticated trace valid]
  dsimp only
  cases read : Username.verbatim? segment with
  | none => exact ⟨_, rfl⟩
  | some name =>
    dsimp only
    rw [unknown name read]
    exact ⟨_, rfl⟩

theorem addressed_known {segment : String} {session : Session} {w : World} {id : UserId}
    {name : Username} {follower following : User} (trace : Option TraceId)
    (valid : authenticated w.users session.content = some id)
    (read : Username.verbatim? segment = some name)
    (target : w.users.findUsername? name = some following)
    (source : w.users.find? id = some follower)
    (act : User → User → Session → Effect (Except Problem Response × Session) World) :
    addressed trace segment session w act = act follower following session := by
  unfold addressed
  rw [checked_of_authenticated trace valid]
  dsimp only
  rw [read]
  dsimp only
  rw [target, source]

theorem effect_addressed (trace : Option TraceId) (segment : String)
    (act : UserId → Username → Handler Response)
    (done : User → User → Session → Effect (Except Problem Response × Session) World)
    (session : Session) (w : World)
    (acts : ∀ id name session, effect (World.answer hasher salt) (act id name) session w =
      match w.users.findUsername? name, w.users.find? id with
      | none, _ => .quiet (.error (Profile.unknownUser trace name.text), session) w
      | some _, none => .quiet (.error (Profile.vanishedUser trace), session) w
      | some following, some follower => done follower following session) :
    effect (World.answer hasher salt) (do
      let follower ← requireUserId trace
      let name ← username trace segment
      act follower name : Handler Response) session w =
      addressed trace segment session w done := by
  unfold addressed
  rw [effect_bind, effect_requireUserId, Effect.quiet_andThen]
  obtain ⟨result, session⟩ := checked trace w.users session
  cases result with
  | error problem => rfl
  | ok id =>
    cases id with
    | none => rfl
    | some id =>
      dsimp only [Except.bind]
      rw [effect_bind, effect_username]
      cases Username.verbatim? segment with
      | none => rfl
      | some name =>
        dsimp only
        rw [Effect.quiet_andThen]
        exact acts id name session

def followed (trace : Option TraceId) (w : World) (follower following : User) (session : Session) :
    Effect (Except Problem Response × Session) World :=
  if w.follows.contains ⟨follower.id, following.id⟩ then
    .quiet (.ok (.ok FollowOutcome.alreadyFollowing.toJson), session) w
  else
    ⟨.finished (.ok (.ok FollowOutcome.followed.toJson), session),
      [⟨.followed, follower, following, trace⟩],
      { w with follows := w.follows.added ⟨follower.id, following.id⟩ }⟩

theorem effect_follow (trace : Option TraceId) (segment : String) (session : Session) (w : World) :
    effect (World.answer hasher salt) (follow trace segment) session w =
      addressed trace segment session w (followed trace w) := by
  unfold follow
  refine effect_addressed hasher salt trace segment _ _ session w ?_
  intro id name session
  unfold followed
  rw [effect_bind, effect_ofService, Profile.effect_follow]
  cases w.users.findUsername? name with
  | none => rfl
  | some following =>
    cases w.users.find? id with
    | none => rfl
    | some follower =>
      dsimp only
      split
      · rfl
      · rfl

def unfollowed (trace : Option TraceId) (w : World) (follower following : User)
    (session : Session) : Effect (Except Problem Response × Session) World :=
  ⟨.finished (.ok (.ok followSuccess), session),
    [⟨.unfollowed, follower, following, trace⟩],
    { w with follows := (w.follows.delete ⟨follower.id, following.id⟩).2 }⟩

theorem effect_unfollow (trace : Option TraceId) (segment : String) (session : Session)
    (w : World) :
    effect (World.answer hasher salt) (unfollow trace segment) session w =
      addressed trace segment session w (unfollowed trace w) := by
  unfold unfollow
  refine effect_addressed hasher salt trace segment _ _ session w ?_
  intro id name session
  rw [effect_bind, effect_ofService, Profile.effect_unfollow]
  cases w.users.findUsername? name with
  | none => rfl
  | some following =>
    cases w.users.find? id with
    | none => rfl
    | some follower => rfl

end Folio.Http.Handler
