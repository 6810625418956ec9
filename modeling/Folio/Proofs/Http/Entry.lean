import Folio.Proofs.Http.Serve
import Folio.Proofs.Registration

/-!
# Registering and logging in

Both ways into the application end in the same step: credentials are compared with those stored,
and a session for their user is set as a cookie. A response sets a session only there.
-/

namespace Folio.Http

open Program

variable {hasher : Password.Hasher} {visit : Visit} {w : World} {users : Users}

def Response.session? (response : Response) : Option SessionContent :=
  match response.cookie with
  | some ⟨_, .set content⟩ => some content
  | _ => none

/-- The session that a visit is answered with. -/
def issued (hasher : Password.Hasher) (visit : Visit) (w : World) : Option SessionContent :=
  match (serve hasher visit w).outcome with
  | .finished response => response.session?
  | .crashed _ => none

/-- A visit sends the form of one of the two ways in. -/
def Visit.Enters (visit : Visit) (form : List (String × String)) : Prop :=
  visit.route? = some .register ∧ visit.request.form registrationFields = .ok form ∨
    visit.route? = some .login ∧ visit.request.form loginFields = .ok form

/-- A visit sends the form of one of the two ways in, filled in with the username of a user. -/
def Visit.EntersAs (visit : Visit) (users : Users) (id : UserId) : Prop :=
  ∃ form name user, visit.Enters form ∧ Username.parse (field form "username") = .ok name ∧
    users.findUsername? name = some user ∧ user.id = id

/-! ### Cookies -/

theorem cookie_start (session : Option SessionContent) : (Session.start session).cookie? = none := by
  cases session with
  | none => rfl
  | some content => rfl

theorem cookie_entered (id : UserId) (generation : Generation) (session : Option SessionContent) :
    (Handler.entered id generation (.start session)).cookie? =
      some (.set (enteredContent id generation (Session.start session).content)) := by
  have active : (Session.start session).status ≠ .purged := nofun
  exact Handler.entered_cookie active id generation

theorem answered_start_cookie (result : Except Problem Response) :
    (answered visit.context (result, .start visit.request.session)).cookie = none := by
  unfold answered App.finish
  rw [cookie_start]
  rfl

theorem answered_start_session (result : Except Problem Response) :
    (answered visit.context (result, .start visit.request.session)).session? = none := by
  unfold Response.session?
  rw [answered_start_cookie]

theorem answered_entered_cookie (result : Except Problem Response) (id : UserId)
    (generation : Generation) :
    (answered visit.context
      (result, Handler.entered id generation (.start visit.request.session))).cookie =
      some ⟨visit.context.policy, .set (enteredContent id generation visit.content)⟩ := by
  unfold answered App.finish
  rw [cookie_entered]
  rfl

theorem answered_entered_session (result : Except Problem Response) (id : UserId)
    (generation : Generation) :
    (answered visit.context
      (result, Handler.entered id generation (.start visit.request.session))).session? =
      some (enteredContent id generation visit.content) := by
  unfold Response.session?
  rw [answered_entered_cookie]

theorem issued_of_effect {response : Response} {after : World}
    (effect : (serve hasher visit w).effect = .quiet response after) :
    issued hasher visit w = response.session? := by
  unfold issued
  rw [(Run.effect_eq effect).1]

/-! ### Admission -/

/-- Someone whose credentials are those stored is admitted; anybody else is refused. -/
theorem admitted_cases (hasher : Password.Hasher) (users : Users) (trace : Option TraceId)
    (credentials : LoginCredentials) (target : String) (session : Session) :
    (∃ problem, Handler.admitted hasher users trace credentials target session =
        (.error problem, session)) ∨
      ∃ name stored generation, Username.parse credentials.username = .ok name ∧
        users.credentials? name = some stored ∧
        hasher.verify credentials.password stored.hash = .ok true ∧
        users.generation? stored.user.id = some generation ∧
        Handler.admitted hasher users trace credentials target session =
          (.ok (.redirect target), Handler.entered stored.user.id generation session) := by
  unfold Handler.admitted Account.authenticated
  cases Username.parse credentials.username with
  | error e => exact Or.inl ⟨_, rfl⟩
  | ok name =>
    dsimp only
    cases found : users.credentials? name with
    | none => exact Or.inl ⟨_, rfl⟩
    | some stored =>
      dsimp only
      cases compared : hasher.verify credentials.password stored.hash with
      | error e => exact Or.inl ⟨_, rfl⟩
      | ok verified =>
        cases verified with
        | false => exact Or.inl ⟨_, rfl⟩
        | true =>
          dsimp only
          cases current : users.generation? stored.user.id with
          | none => exact Or.inl ⟨_, rfl⟩
          | some generation =>
            exact Or.inr ⟨name, stored, generation, rfl, found, compared, current, rfl⟩

theorem admitted_of_verified {trace : Option TraceId} {credentials : LoginCredentials}
    {name : Username} {stored : StoredCredentials} {generation : Generation}
    (named : Username.parse credentials.username = .ok name)
    (found : users.credentials? name = some stored)
    (verified : hasher.verify credentials.password stored.hash = .ok true)
    (current : users.generation? stored.user.id = some generation) (target : String)
    (session : Session) :
    Handler.admitted hasher users trace credentials target session =
      (.ok (.redirect target), Handler.entered stored.user.id generation session) := by
  unfold Handler.admitted Account.authenticated
  rw [named]
  dsimp only
  rw [found]
  dsimp only
  rw [verified]
  dsimp only
  rw [current]

/-! ### Visits -/

theorem serve_register (hasher : Password.Hasher) (w : World) {form : List (String × String)}
    {registration : Registration} (route : visit.route? = some .register)
    (sent : visit.request.form registrationFields = .ok form)
    (accepted : Registration.ofFields (field form "username") (field form "password1")
      (field form "password2") = .ok registration) :
    (serve hasher visit w).effect =
      match Account.registered hasher visit.salt w.users visit.trace visit.context.freshId
          registration with
      | (.error problem, users) =>
        .quiet (answered visit.context (.error problem, .start visit.request.session))
          { w with users }
      | (.ok _, users) =>
        .quiet (answered visit.context (Handler.admitted hasher users visit.trace
          registration.credentials homePath (.start visit.request.session))) { w with users } := by
  rw [serve_effect hasher w route]
  unfold App.handle
  rw [sent]
  dsimp only
  have handled := Handler.effect_register hasher visit.salt visit.trace visit.context.freshId form
    (.start visit.request.session) w
  rw [accepted] at handled
  refine (congrArg (Effect.andThen · _) handled).trans ?_
  dsimp only
  obtain ⟨result, users⟩ := Account.registered hasher visit.salt w.users visit.trace
    visit.context.freshId registration
  cases result with
  | error problem => rfl
  | ok user => rfl

theorem serve_login (hasher : Password.Hasher) (w : World) {next : String}
    {form : List (String × String)} (route : visit.route? = some .login)
    (asked : visit.request.next = .ok next) (sent : visit.request.form loginFields = .ok form)
    (named : Text.trim (field form "username") ≠ "") (given : field form "password" ≠ "") :
    (serve hasher visit w).effect =
      .quiet (answered visit.context (Handler.admitted hasher w.users visit.trace
        ⟨Text.trim (field form "username"), field form "password"⟩ (nextOrHome next)
        (.start visit.request.session))) w := by
  have filled : (loginFormErrors (field form "username") (field form "password")).isEmpty = true :=
    loginFormErrors_isEmpty_iff.mpr ⟨named, given⟩
  have credentials : LoginCredentials.ofFields (field form "username") (field form "password") =
      .ok ⟨Text.trim (field form "username"), field form "password"⟩ :=
    LoginCredentials.ofFields_eq_ok_iff.mpr ⟨named, given, rfl⟩
  rw [serve_effect hasher w route]
  unfold App.handle
  rw [asked]
  dsimp only
  rw [sent]
  dsimp only
  have handled := Handler.effect_login hasher visit.salt visit.trace next form
    (.start visit.request.session) w
  rw [filled, credentials, if_neg (by simp)] at handled
  refine (congrArg (Effect.andThen · _) handled).trans ?_
  exact Effect.quiet_andThen _ _ _

/-- A handler leaves the session as it came, or opens one for the user whom the form names. -/
def Admits (visit : Visit) (e : Effect (Except Problem Response × Session) World) : Prop :=
  ∃ result after, e = .quiet result after ∧
    (result.2 = .start visit.request.session ∨
      ∃ id generation, visit.EntersAs after.users id ∧
        after.users.generation? id = some generation ∧
        result.2 = Handler.entered id generation (.start visit.request.session))

theorem admits_error (problem : Problem) (w : World) :
    Admits visit (.quiet (.error problem, .start visit.request.session) w) :=
  ⟨_, _, rfl, Or.inl rfl⟩

theorem admits_admitted {form : List (String × String)} {credentials : LoginCredentials}
    (sent : visit.Enters form)
    (named : Username.parse credentials.username = Username.parse (field form "username"))
    (target : String) (w : World) :
    Admits visit (.quiet (Handler.admitted hasher w.users visit.trace credentials target
      (.start visit.request.session)) w) := by
  rcases admitted_cases hasher w.users visit.trace credentials target
    (.start visit.request.session) with
    ⟨problem, refused⟩ | ⟨name, stored, generation, read, found, _, current, opened⟩
  · rw [refused]
    exact admits_error problem w
  · have user : w.users.findUsername? name = some stored.user := by
      unfold Users.findUsername?
      rw [found]
      rfl
    rw [opened]
    exact ⟨_, w, rfl, Or.inr ⟨_, generation,
      ⟨form, name, stored.user, sent, named.symm.trans read, user, rfl⟩, current, rfl⟩⟩

theorem admits_register {form : List (String × String)} (sent : visit.Enters form) (w : World) :
    Admits visit (Handler.effect (World.answer hasher visit.salt)
      (Handler.register visit.trace visit.context.freshId form)
      (.start visit.request.session) w) := by
  rw [Handler.effect_register]
  split
  · exact admits_error _ w
  · rename_i registration accepted
    obtain ⟨result, users⟩ := Account.registered hasher visit.salt w.users visit.trace
      visit.context.freshId registration
    cases result with
    | error problem => exact admits_error problem _
    | ok user =>
      refine admits_admitted sent ?_ homePath { w with users }
      rw [show registration.credentials.username = registration.username.text from rfl,
        Username.parse_text, (Registration.ofFields_eq_ok_iff.mp accepted).1]

theorem admits_login {form : List (String × String)} (sent : visit.Enters form) (next : String)
    (w : World) :
    Admits visit (Handler.effect (World.answer hasher visit.salt)
      (Handler.login visit.trace next form) (.start visit.request.session) w) := by
  rw [Handler.effect_login]
  split
  · exact admits_error _ w
  · split
    · exact admits_error _ w
    · rename_i credentials accepted
      refine admits_admitted sent ?_ (nextOrHome next) w
      obtain ⟨_, _, rfl⟩ := LoginCredentials.ofFields_eq_ok_iff.mp accepted
      exact Username.parse_trim _

theorem session_of_entry {content : SessionContent}
    (entry : visit.route? = some .register ∨ visit.route? = some .login)
    (sets : issued hasher visit w = some content) :
    ∃ id generation, visit.EntersAs (serve hasher visit w).state.users id ∧
      (serve hasher visit w).state.users.generation? id = some generation ∧
      content = enteredContent id generation visit.content := by
  -- Both ways in come down to the same admission.
  have admits : ∃ route, visit.route? = some route ∧
      Admits visit (Handler.effect (World.answer hasher visit.salt)
        (App.handle visit.context visit.request route) (.start visit.request.session) w) := by
    rcases entry with route | route
    · refine ⟨_, route, ?_⟩
      unfold App.handle
      cases sent : visit.request.form registrationFields with
      | error fault => exact ⟨_, _, rfl, Or.inl rfl⟩
      | ok form => exact admits_register (Or.inl ⟨route, sent⟩) w
    · refine ⟨_, route, ?_⟩
      unfold App.handle
      cases visit.request.next with
      | error fault => exact ⟨_, _, rfl, Or.inl rfl⟩
      | ok next =>
        dsimp only
        cases sent : visit.request.form loginFields with
        | error fault => exact ⟨_, _, rfl, Or.inl rfl⟩
        | ok form => exact admits_login (Or.inr ⟨route, sent⟩) next w
  obtain ⟨route, found, ⟨result, session⟩, after, handled, left⟩ := admits
  have effect := serve_effect hasher w found
  rw [handled, Effect.quiet_andThen] at effect
  have state := (Run.effect_eq effect).2.2
  rw [issued_of_effect effect] at sets
  rcases left with kept | ⟨id, generation, user, current, opened⟩
  · dsimp only at kept
    rw [kept, answered_start_session] at sets
    cases sets
  · dsimp only at opened
    rw [opened, answered_entered_session] at sets
    cases sets
    rw [state]
    exact ⟨id, generation, user, current, rfl⟩

/-! ### Everywhere else -/

/-- A handler leaves the session as it came or ends it. -/
def Closes (visit : Visit) (e : Effect (Except Problem Response × Session) World) : Prop :=
  ∃ result session events after, e = ⟨.finished (result, session), events, after⟩ ∧
    (session = .start visit.request.session ∨ session = (Session.start visit.request.session).purge)

theorem closes_kept (result : Except Problem Response) (w : World) :
    Closes visit (.quiet (result, .start visit.request.session) w) :=
  ⟨_, _, _, _, rfl, Or.inl rfl⟩

theorem checked_session (trace : Option TraceId) (users : Users) (session : Session) :
    (checked trace users session).2 = session ∨ (checked trace users session).2 = session.purge := by
  unfold checked
  split
  · exact Or.inl rfl
  · exact Or.inl rfl
  · split
    · exact Or.inl rfl
    · exact Or.inr rfl

theorem closes_logout :
    Closes visit (Handler.effect (World.answer hasher visit.salt) (Handler.logout visit.trace)
      (.start visit.request.session) w) := by
  rw [Handler.effect_logout]
  split
  · exact ⟨_, _, _, _, rfl, Or.inr rfl⟩
  · exact ⟨_, _, _, _, rfl, Or.inr rfl⟩
  · exact ⟨_, _, _, _, rfl, Or.inr rfl⟩

theorem closes_profile (segment : String) :
    Closes visit (Handler.effect (World.answer hasher visit.salt)
      (Handler.profile visit.trace segment) (.start visit.request.session) w) := by
  rw [Handler.effect_profile]
  have left := checked_session visit.trace w.users (.start visit.request.session)
  generalize checked visit.trace w.users (.start visit.request.session) = result at left ⊢
  split
  · exact closes_kept _ w
  · split
    · exact ⟨_, _, _, _, rfl, left⟩
    · split
      · exact ⟨_, _, _, _, rfl, left⟩
      · exact ⟨_, _, _, _, rfl, left⟩

theorem closes_addressed (segment : String)
    {act : User → User → Session → Effect (Except Problem Response × Session) World}
    (acts : ∀ follower following, Closes visit
      (act follower following (.start visit.request.session))) :
    Closes visit
      (Handler.addressed visit.trace segment (.start visit.request.session) w act) := by
  rcases Handler.addressed_cases visit.trace segment (.start visit.request.session) w act with
    ⟨problem, refused⟩ | ⟨_, _, follower, following, _, _, _, _, done⟩
  · rw [refused]
    exact ⟨_, _, _, _, rfl, checked_session visit.trace w.users _⟩
  · rw [done]
    exact acts follower following

theorem closes_follow (segment : String) :
    Closes visit (Handler.effect (World.answer hasher visit.salt)
      (Handler.follow visit.trace segment) (.start visit.request.session) w) := by
  rw [Handler.effect_follow]
  refine closes_addressed segment ?_
  intro follower following
  unfold Handler.followed
  split
  · exact closes_kept _ w
  · exact ⟨_, _, _, _, rfl, Or.inl rfl⟩

theorem closes_unfollow (segment : String) :
    Closes visit (Handler.effect (World.answer hasher visit.salt)
      (Handler.unfollow visit.trace segment) (.start visit.request.session) w) := by
  rw [Handler.effect_unfollow]
  refine closes_addressed segment ?_
  intro follower following
  exact ⟨_, _, _, _, rfl, Or.inl rfl⟩

theorem closes_handle (hasher : Password.Hasher) (w : World) {route : Route}
    (register : route ≠ .register) (login : route ≠ .login) :
    Closes visit (Handler.effect (World.answer hasher visit.salt)
      (App.handle visit.context visit.request route) (.start visit.request.session) w) := by
  cases route with
  | registrationForm => exact closes_kept _ w
  | register => exact (register rfl).elim
  | loginForm =>
    unfold App.handle
    cases visit.request.next with
    | error fault => exact closes_kept _ w
    | ok next => exact closes_kept _ w
  | login => exact (login rfl).elim
  | logout => exact closes_logout
  | profile segment => exact closes_profile segment
  | follow segment => exact closes_follow segment
  | unfollow segment => exact closes_unfollow segment
  | ready => exact closes_kept _ w
  | live => exact closes_kept _ w
  | apiDocument => exact closes_kept _ w

theorem answered_purged_session (result : Except Problem Response) :
    (answered visit.context
      (result, (Session.start visit.request.session).purge)).session? = none := by
  unfold Response.session? answered App.finish
  cases visit.request.session with
  | none => rfl
  | some content => rfl

/-- Only registering and logging in set a session. -/
theorem entry_of_issued {content : SessionContent} (sets : issued hasher visit w = some content) :
    visit.route? = some .register ∨ visit.route? = some .login := by
  cases found : visit.route? with
  | none =>
    rw [issued_of_effect (serve_unrouted hasher w found)] at sets
    unfold Response.session? App.finish at sets
    rw [cookie_start] at sets
    cases sets
  | some route =>
    by_cases register : route = .register
    · exact Or.inl (by rw [register])
    by_cases login : route = .login
    · exact Or.inr (by rw [login])
    obtain ⟨result, session, events, after, handled, left⟩ :=
      closes_handle hasher w register login
    have effect := serve_effect hasher w found
    rw [handled, Effect.finished_andThen] at effect
    unfold issued at sets
    rw [(Run.effect_eq effect).1] at sets
    dsimp only [Effect.quiet] at sets
    rcases left with rfl | rfl
    · rw [answered_start_session] at sets
      cases sets
    · rw [answered_purged_session] at sets
      cases sets

/-- A session that is set is one for the user whom the form names, in the user's generation. -/
theorem session_of_issued {content : SessionContent}
    (sets : issued hasher visit w = some content) :
    ∃ id generation, visit.EntersAs (serve hasher visit w).state.users id ∧
      (serve hasher visit w).state.users.generation? id = some generation ∧
      content = enteredContent id generation visit.content :=
  session_of_entry (entry_of_issued sets) sets

theorem readable_of_issued {content : SessionContent}
    (sets : issued hasher visit w = some content) : Readable content := by
  obtain ⟨id, generation, _, _, rfl⟩ := session_of_issued sets
  exact ⟨_, claimOf_entered id generation _⟩

end Folio.Http
