import Folio.Proofs.Http.FollowLog
import Folio.Proofs.Http.Login

/-!
# Requests that change nothing

Whatever changes a store or announces something is answered with a success: once a handler has made
its change, nothing after it can fail. Hence a request that is refused has changed nothing.
-/

namespace Folio.Http

open Program

variable {hasher : Password.Hasher} {visit : Visit} {w : World}

/-- The routes whose handlers may change something. -/
def Route.changes : Route → Bool
  | register | logout | follow _ | unfollow _ => true
  | _ => false

theorem find_get_changes {path : String} {route : Route}
    (found : Route.find? "GET" path = some route) (changes : route.changes = true) :
    path = "/accounts/logout" := by
  unfold Route.find? at found
  split at found
  case h_5 => rfl
  case h_9 =>
    obtain ⟨segment, _, rfl⟩ := Option.map_eq_some_iff.mp found
    cases changes
  case h_1 | h_3 | h_6 | h_7 | h_8 =>
    cases found
    cases changes
  -- What is left is for other methods.
  all_goals simp_all

/-- A user who has just been added can log in, also under an id that was in use. -/
theorem admitted_added {users : Users} {registration : Registration} {hash : PasswordHash}
    (verified : hasher.verify registration.password hash = .ok true) (id : UserId)
    (trace : Option TraceId) (session : Session) :
    Handler.admitted hasher (users.added ⟨id, registration.username⟩ hash) trace
        registration.credentials homePath session =
      (.ok (.redirect homePath), Handler.entered id .initial session) := by
  have named : Username.parse registration.credentials.username = .ok registration.username :=
    Username.parse_text _
  have found : (users.added ⟨id, registration.username⟩ hash).credentials? registration.username =
      some ⟨⟨id, registration.username⟩, hash⟩ := by
    unfold Users.credentials? Users.added
    simp only [Table.get?_insert, if_pos, Option.bind_some]
  have current : (users.added ⟨id, registration.username⟩ hash).generation? id = some .initial := by
    rw [Users.generation_added, if_pos rfl]
  exact admitted_of_verified named found verified current homePath session

theorem redirect_home : (Response.redirect homePath).status = 302 := by decide

theorem registered_status {form : List (String × String)} {registration : Registration}
    {response : Response} (law : hasher.Recognizes visit.salt)
    (route : visit.route? = some .register)
    (sent : visit.request.form registrationFields = .ok form)
    (accepted : Registration.ofFields (field form "username") (field form "password1")
      (field form "password2") = .ok registration)
    (free : w.users.ids.get? registration.username = none)
    (ended : (serve hasher visit w).outcome = .finished response) : response.status = 302 := by
  obtain ⟨hash, hashed, verified⟩ := law registration.password
  have absent : w.users.findUsername? registration.username = none := by
    unfold Users.findUsername? Users.credentials?
    rw [free]
    rfl
  have effect := serve_register hasher w route sent accepted
  rw [Account.registered_free hasher visit.salt absent free hashed] at effect
  dsimp only at effect
  rw [admitted_added verified] at effect
  have outcome := (Run.effect_eq effect).1
  cases outcome.symm.trans ended
  exact redirect_home

theorem loggedOut_status {id : UserId} {response : Response} (route : visit.route? = some .logout)
    (valid : authenticated w.users visit.content = some id)
    (ended : (serve hasher visit w).outcome = .finished response) : response.status = 302 := by
  have handled := Handler.effect_logout hasher visit.salt visit.trace
    (.start visit.request.session) w
  rw [checked_some.mpr valid] at handled
  have effect := serve_effect hasher w route
  rw [show App.handle visit.context visit.request .logout = Handler.logout visit.trace from rfl,
    handled, Effect.quiet_andThen] at effect
  have outcome := (Run.effect_eq effect).1
  cases outcome.symm.trans ended
  exact redirect_home

theorem acted_status {segment : String} {id : UserId} {name : Username}
    {follower following : User} {body : Json} {events : List FollowEvent} {after : World}
    {response : Response}
    {act : User → User → Session → Effect (Except Problem Response × Session) World}
    (acts : ActsOn hasher visit w segment act)
    (valid : authenticated w.users visit.content = some id)
    (named : Username.verbatim? segment = some name)
    (target : w.users.findUsername? name = some following)
    (source : w.users.find? id = some follower)
    (done : ∀ session, act follower following session =
      ⟨.finished (.ok (.ok body), session), events, after⟩)
    (ended : (serve hasher visit w).outcome = .finished response) : response.status = 200 := by
  unfold ActsOn at acts
  rw [Handler.addressed_known visit.trace valid named target source, done,
    Effect.finished_andThen] at acts
  have outcome := (Run.effect_eq acts).1
  cases outcome.symm.trans ended
  rfl

/-- A visit that changes something or announces something has a route that may, and succeeds. -/
theorem step_succeeds {events : List FollowEvent} {after : World} {response : Response}
    (law : hasher.Recognizes visit.salt) (step : Step hasher visit w events after)
    (ended : (serve hasher visit w).outcome = .finished response) :
    (events = [] ∧ after = w) ∨
      response.status < 400 ∧ ∃ route, visit.route? = some route ∧ route.changes = true := by
  cases step with
  | still => exact Or.inl ⟨rfl, rfl⟩
  | loggedOut route valid =>
    have status := loggedOut_status route valid ended
    exact Or.inr ⟨by omega, _, route, rfl⟩
  | registered route sent accepted free _ =>
    have status := registered_status law route sent accepted free ended
    exact Or.inr ⟨by omega, _, route, rfl⟩
  | followed route valid named target source absent =>
    have status := acted_status (actsOn_follow route) valid named target source
      (fun session => by unfold Handler.followed; rw [absent]; rfl) ended
    exact Or.inr ⟨by omega, _, route, rfl⟩
  | unfollowed route valid named target source =>
    have status := acted_status (actsOn_unfollow route) valid named target source
      (fun _ => rfl) ended
    exact Or.inr ⟨by omega, _, route, rfl⟩

/-- Every request is answered. If it is refused, or if it only looks at something, the stores are as
they were and nothing is announced. -/
theorem refused_changes_nothing (hasher : Password.Hasher) (visit : Visit) (w : World)
    (law : hasher.Recognizes visit.salt) :
    ∃ response, (serve hasher visit w).outcome = .finished response ∧
      (400 ≤ response.status ∨
          visit.request.method = "GET" ∧ visit.request.routePath ≠ "/accounts/logout" →
        (serve hasher visit w).events = [] ∧ (serve hasher visit w).state = w) := by
  obtain ⟨response, ended, step⟩ := serve_cases hasher visit w
  refine ⟨response, ended, ?_⟩
  intro harmless
  -- A visit that did change something succeeded, and is no visit that only looks.
  rcases step_succeeds law step ended with same | ⟨success, route, found, changes⟩
  · exact same
  · rcases harmless with refused | ⟨get, elsewhere⟩
    · omega
    · unfold Visit.route? at found
      rw [get] at found
      exact (elsewhere (find_get_changes found changes)).elim

/-- The status of an answer, if there is one. -/
def Response.statusOf? : Outcome Response → Option Nat
  | .finished response => some response.status
  | .crashed _ => none

theorem Response.finished_of_statusOf {outcome : Outcome Response} {code : Nat}
    (status : statusOf? outcome = some code) :
    ∃ response, outcome = .finished response ∧ response.status = code := by
  cases outcome with
  | finished response => exact ⟨response, rfl, Option.some.inj status⟩
  | crashed cause => cases status

/-- A registration under a username that somebody has. -/
def registerAgain : Visit :=
  .numbered 2 "POST" "/accounts/register" "username=ada&password1=other&password2=other" none

theorem refused_changes_nothing_taken :
    (serve plainHasher registerAgain (worldAfter plainHasher (emptyWorld .initial)
      [registerAda])).events = [] ∧
    (serve plainHasher registerAgain (worldAfter plainHasher (emptyWorld .initial)
      [registerAda])).state = worldAfter plainHasher (emptyWorld .initial) [registerAda] := by
  have refused : Response.statusOf? (serve plainHasher registerAgain
      (worldAfter plainHasher (emptyWorld .initial) [registerAda])).outcome = some 400 := by
    decide +kernel
  obtain ⟨response, ended, harmless⟩ := refused_changes_nothing plainHasher registerAgain
    (worldAfter plainHasher (emptyWorld .initial) [registerAda]) (plainHasher_recognizes _)
  rw [ended] at refused
  exact harmless (Or.inl (Option.some.inj refused).ge)

end Folio.Http
