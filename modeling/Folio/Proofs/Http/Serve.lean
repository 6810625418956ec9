import Folio.Proofs.Http.Handlers

/-!
# Visits

A visit is a request together with what is made for it. `serve` answers it over the world in
memory, `worldAfter` answers visits one after the other. `serve_cases` says everything that a visit
can do to the stores: nothing, or one of four changes with its announcement.
-/

namespace Folio.Http

open Program

/-- A request, its context and the salt for a password that it brings. -/
structure Visit where
  context : Context
  salt : List UInt8
  request : Request

namespace Visit

def route? (visit : Visit) : Option Route :=
  Route.find? visit.request.method visit.request.routePath

/-- The trace id under which problems and events of a visit stand. -/
def trace (visit : Visit) : Option TraceId :=
  some visit.context.trace

/-- The content of the session that a visit came with; empty when it came with none. -/
def content (visit : Visit) : SessionContent :=
  (Session.start visit.request.session).content

def program (visit : Visit) : Program Response :=
  App.respond visit.context visit.request

end Visit

/-- Answers a visit over the world in memory. -/
def serve (hasher : Password.Hasher) (visit : Visit) (w : World) : Run Response World :=
  (App.respond visit.context visit.request).run (World.answer hasher visit.salt) w

/-- The world after visits that were answered one after the other. -/
def worldAfter (hasher : Password.Hasher) (w : World) (visits : List Visit) : World :=
  visits.foldl (fun w visit => (serve hasher visit w).state) w

/-- What the session check answers for a session in a world. -/
def sessionUser (hasher : Password.Hasher) (salt : List UInt8) (trace : Option TraceId)
    (session : Option SessionContent) (w : World) : Outcome (Except Problem (Option UserId)) :=
  match (((Handler.userId trace).run.run (.start session)).run (World.answer hasher salt) w).outcome
    with
  | .finished (result, _) => .finished result
  | .crashed cause => .crashed cause

/-- The session that a visit came with authenticates a user. -/
def Visit.IsBy (visit : Visit) (hasher : Password.Hasher) (w : World) (id : UserId) : Prop :=
  sessionUser hasher visit.salt visit.trace visit.request.session w = .finished (.ok (some id))

variable {hasher : Password.Hasher} {visit : Visit} {w : World}

theorem sessionUser_eq (salt : List UInt8) (trace : Option TraceId)
    (session : Option SessionContent) :
    sessionUser hasher salt trace session w =
      .finished (checked trace w.users (.start session)).1 := by
  have effect := Handler.effect_userId hasher salt trace (.start session) w
  have outcome : (((Handler.userId trace).run.run (.start session)).run
      (World.answer hasher salt) w).outcome = .finished (checked trace w.users (.start session)) :=
    congrArg Effect.outcome effect
  unfold sessionUser
  rw [outcome]

theorem sessionUser_readable (salt : List UInt8) (trace : Option TraceId)
    {content : SessionContent} (readable : Readable content) :
    sessionUser hasher salt trace (some content) w =
      .finished (.ok (authenticated w.users content)) := by
  rw [sessionUser_eq, checked_readable trace readable]
  rfl

theorem sessionUser_claim (salt : List UInt8) (trace : Option TraceId) {content : SessionContent}
    {id : UserId} {generation : Generation}
    (claim : claimOf content = .ok (some (id, generation))) :
    sessionUser hasher salt trace (some content) w =
      .finished (.ok (if w.users.generation? id = some generation then some id else none)) := by
  rw [sessionUser_readable salt trace ⟨_, claim⟩]
  unfold authenticated
  rw [claim]

theorem sessionUser_entered (salt : List UInt8) (trace : Option TraceId) (id : UserId)
    (generation : Generation) (content : SessionContent) :
    sessionUser hasher salt trace (some (enteredContent id generation content)) w =
      .finished (.ok (if w.users.generation? id = some generation then some id else none)) :=
  sessionUser_claim salt trace (claimOf_entered id generation content)

theorem isBy_iff {id : UserId} :
    visit.IsBy hasher w id ↔ authenticated w.users visit.content = some id := by
  unfold Visit.IsBy
  rw [sessionUser_eq]
  constructor
  · intro same
    injection same with same
    exact checked_some.mp same
  · intro valid
    rw [checked_some.mpr valid]

theorem not_isBy_of_anonymous (anonymous : visit.request.session = none) (id : UserId) :
    ¬visit.IsBy hasher w id := by
  rw [isBy_iff]
  unfold Visit.content
  rw [anonymous]
  intro valid
  cases valid

/-! ### Answers -/

def answered (context : Context) (result : Except Problem Response × Session) : Response :=
  App.finish context result.2
    (match result.1 with
    | .ok response => response
    | .error problem => .ofProblem problem)

def answerStatus : Except Problem Response → Nat
  | .ok response => response.status
  | .error problem => (Response.ofProblem problem).status

theorem answered_status (context : Context) (result : Except Problem Response)
    (session : Session) : (answered context (result, session)).status = answerStatus result := by
  cases result with
  | ok response => rfl
  | error problem => rfl

/-- A problem is answered with the status of its code, or as a server error if its trace id cannot
be written. -/
theorem answerStatus_problem (problem : Problem) :
    answerStatus (.error problem) = status problem.code ∨ answerStatus (.error problem) = 500 := by
  unfold answerStatus Response.ofProblem
  dsimp only
  split
  · exact Or.inl rfl
  · exact Or.inr rfl

theorem isHeaderText_render (u : Uuid) : isHeaderText u.render = true := by
  unfold isHeaderText
  rw [Uuid.toList_render, List.all_eq_true]
  intro c member
  have bounds := Text.isIdChar_bounds (Uuid.renderChars_chars u c member)
  have small : c.toNat ≠ 0x7f := by omega
  have large : 0x20 ≤ c.toNat := by omega
  simp [small, large]

theorem ofProblem_traced {problem : Problem} {trace : TraceId}
    (traced : problem.traceId = some trace.render) :
    Response.ofProblem problem =
      { status := status problem.code
        body := .json (redact problem).toJson
        traceId := problem.traceId } := by
  have written : problem.traceId.all isHeaderText = true := by
    rw [traced, Option.all_some]
    exact isHeaderText_render trace.uuid
  unfold Response.ofProblem
  rw [if_pos written]

theorem answered_problem_status {problem : Problem} (session : Session)
    (traced : problem.traceId = visit.trace.map TraceId.render) :
    (answered visit.context (.error problem, session)).status = status problem.code := by
  unfold answered App.finish
  dsimp only
  rw [ofProblem_traced traced]

/-- How a visit is answered after its handler. -/
def Visit.reply (visit : Visit) (result : Except Problem Response × Session) : Program Response :=
  .done (answered visit.context result)

theorem program_eq {route : Route} (found : visit.route? = some route) :
    visit.program = ((App.handle visit.context visit.request route).run.run
      (.start visit.request.session)).bind visit.reply := by
  unfold Visit.route? at found
  unfold Visit.program App.respond
  rw [found]
  show Program.bind _ _ = _
  congr 1
  funext result
  obtain ⟨result, session⟩ := result
  cases result with
  | ok response => rfl
  | error problem => rfl

/-- A visit to a known address has the effect of its handler. -/
theorem serve_effect (hasher : Password.Hasher) (w : World) {route : Route}
    (found : visit.route? = some route) :
    (serve hasher visit w).effect =
      (Handler.effect (World.answer hasher visit.salt)
        (App.handle visit.context visit.request route) (.start visit.request.session) w).andThen
        fun result w => .quiet (answered visit.context result) w := by
  have served : serve hasher visit w = visit.program.run (World.answer hasher visit.salt) w := rfl
  rw [served, program_eq found]
  exact Program.effect_bind (World.answer hasher visit.salt) _ _ w

theorem serve_unrouted (hasher : Password.Hasher) (w : World) (unknown : visit.route? = none) :
    (serve hasher visit w).effect =
      .quiet (App.finish visit.context (.start visit.request.session) .notFound) w := by
  unfold Visit.route? at unknown
  unfold serve App.respond
  rw [unknown]
  rfl

/-- Logging out moves the user whom the session authenticates to the next generation. -/
theorem serve_logout {id : UserId} (route : visit.route? = some .logout)
    (valid : authenticated w.users visit.content = some id) :
    (serve hasher visit w).state = { w with users := w.users.advance id } := by
  have handled := Handler.effect_logout hasher visit.salt visit.trace
    (.start visit.request.session) w
  rw [checked_some.mpr valid] at handled
  have effect := serve_effect hasher w route
  rw [show App.handle visit.context visit.request .logout = Handler.logout visit.trace from rfl,
    handled, Effect.quiet_andThen] at effect
  exact (Run.effect_eq effect).2.2

/-! ### What a visit can do -/

/-- The changes that a visit can make, each with what it announces. -/
inductive Step (hasher : Password.Hasher) (visit : Visit) (w : World) :
    List FollowEvent → World → Prop where
  | still : Step hasher visit w [] w
  | loggedOut {id : UserId} (route : visit.route? = some .logout)
      (valid : authenticated w.users visit.content = some id) :
      Step hasher visit w [] { w with users := w.users.advance id }
  | registered {form : List (String × String)} {registration : Registration} {hash : PasswordHash}
      (route : visit.route? = some .register)
      (sent : visit.request.form registrationFields = .ok form)
      (accepted : Registration.ofFields (field form "username") (field form "password1")
        (field form "password2") = .ok registration)
      (free : w.users.ids.get? registration.username = none)
      (hashed : hasher.hash visit.salt registration.password = .ok hash) :
      Step hasher visit w []
        { w with users := w.users.added ⟨visit.context.freshId, registration.username⟩ hash }
  | followed {segment : String} {id : UserId} {name : Username} {follower following : User}
      (route : visit.route? = some (.follow segment))
      (valid : authenticated w.users visit.content = some id)
      (named : Username.verbatim? segment = some name)
      (target : w.users.findUsername? name = some following)
      (source : w.users.find? id = some follower)
      (absent : w.follows.contains ⟨follower.id, following.id⟩ = false) :
      Step hasher visit w [⟨.followed, follower, following, visit.trace⟩]
        { w with follows := w.follows.added ⟨follower.id, following.id⟩ }
  | unfollowed {segment : String} {id : UserId} {name : Username} {follower following : User}
      (route : visit.route? = some (.unfollow segment))
      (valid : authenticated w.users visit.content = some id)
      (named : Username.verbatim? segment = some name)
      (target : w.users.findUsername? name = some following)
      (source : w.users.find? id = some follower) :
      Step hasher visit w [⟨.unfollowed, follower, following, visit.trace⟩]
        { w with follows := (w.follows.delete ⟨follower.id, following.id⟩).2 }

/-- A handler ends without a crash and makes one of the changes. -/
def Settles (hasher : Password.Hasher) (visit : Visit) (w : World)
    (e : Effect (Except Problem Response × Session) World) : Prop :=
  ∃ result events after, e = ⟨.finished result, events, after⟩ ∧ Step hasher visit w events after

theorem settles_quiet (result : Except Problem Response × Session) :
    Settles hasher visit w (.quiet result w) :=
  ⟨result, [], w, rfl, .still⟩

theorem settles_register (route : visit.route? = some .register) (session : Session)
    {form : List (String × String)} (sent : visit.request.form registrationFields = .ok form) :
    Settles hasher visit w (Handler.effect (World.answer hasher visit.salt)
      (Handler.register visit.trace visit.context.freshId form) session w) := by
  rw [Handler.effect_register]
  split
  · exact settles_quiet _
  · rename_i registration accepted
    rcases Account.registered_cases hasher visit.salt w.users visit.trace visit.context.freshId
      registration with ⟨problem, refused⟩ | ⟨hash, free, hashed, created⟩
    · rw [refused]
      exact settles_quiet _
    · rw [created]
      exact ⟨_, _, _, rfl, .registered route sent accepted free hashed⟩

theorem settles_logout (route : visit.route? = some .logout) :
    Settles hasher visit w (Handler.effect (World.answer hasher visit.salt)
      (Handler.logout visit.trace) (.start visit.request.session) w) := by
  rw [Handler.effect_logout]
  split
  · rename_i id valid
    exact ⟨_, _, _, rfl, .loggedOut route (checked_some.mp valid)⟩
  · exact settles_quiet _
  · exact settles_quiet _

theorem settles_profile (segment : String) (session : Session) :
    Settles hasher visit w (Handler.effect (World.answer hasher visit.salt)
      (Handler.profile visit.trace segment) session w) := by
  rw [Handler.effect_profile]
  repeat' split
  all_goals exact settles_quiet _

theorem settles_follow {segment : String} (route : visit.route? = some (.follow segment)) :
    Settles hasher visit w (Handler.effect (World.answer hasher visit.salt)
      (Handler.follow visit.trace segment) (.start visit.request.session) w) := by
  rw [Handler.effect_follow]
  rcases Handler.addressed_cases visit.trace segment (.start visit.request.session) w _ with
    ⟨problem, refused⟩ | ⟨id, name, follower, following, valid, named, target, source, acts⟩
  · rw [refused]
    exact settles_quiet _
  · rw [acts]
    unfold Handler.followed
    split
    · exact settles_quiet _
    · rename_i absent
      exact ⟨_, _, _, rfl, .followed route valid named target source (by simpa using absent)⟩

theorem settles_unfollow {segment : String} (route : visit.route? = some (.unfollow segment)) :
    Settles hasher visit w (Handler.effect (World.answer hasher visit.salt)
      (Handler.unfollow visit.trace segment) (.start visit.request.session) w) := by
  rw [Handler.effect_unfollow]
  rcases Handler.addressed_cases visit.trace segment (.start visit.request.session) w _ with
    ⟨problem, refused⟩ | ⟨id, name, follower, following, valid, named, target, source, acts⟩
  · rw [refused]
    exact settles_quiet _
  · rw [acts]
    exact ⟨_, _, _, rfl, .unfollowed route valid named target source⟩

theorem settles_handle (hasher : Password.Hasher) (w : World) {route : Route}
    (found : visit.route? = some route) :
    Settles hasher visit w (Handler.effect (World.answer hasher visit.salt)
      (App.handle visit.context visit.request route) (.start visit.request.session) w) := by
  cases route with
  | registrationForm => exact settles_quiet _
  | register =>
    unfold App.handle
    cases sent : visit.request.form registrationFields with
    | error fault => exact settles_quiet _
    | ok form => exact settles_register found _ sent
  | loginForm =>
    unfold App.handle
    cases visit.request.next with
    | error fault => exact settles_quiet _
    | ok next => exact settles_quiet _
  | login =>
    unfold App.handle
    cases visit.request.next with
    | error fault => exact settles_quiet _
    | ok next =>
      dsimp only
      cases visit.request.form loginFields with
      | error fault => exact settles_quiet _
      | ok form =>
        dsimp only
        rw [Handler.effect_login]
        exact settles_quiet _
  | logout => exact settles_logout found
  | profile segment => exact settles_profile segment _
  | follow segment => exact settles_follow found
  | unfollow segment => exact settles_unfollow found
  | ready => exact settles_quiet _
  | live => exact settles_quiet _
  | apiDocument => exact settles_quiet _

/-- Every visit is answered, and does nothing to the stores or one of four changes. -/
theorem serve_cases (hasher : Password.Hasher) (visit : Visit) (w : World) :
    ∃ response, (serve hasher visit w).outcome = .finished response ∧
      Step hasher visit w (serve hasher visit w).events (serve hasher visit w).state := by
  cases found : visit.route? with
  | none =>
    obtain ⟨outcome, events, state⟩ := Run.effect_eq (serve_unrouted hasher w found)
    exact ⟨_, outcome, by rw [events, state]; exact .still⟩
  | some route =>
    obtain ⟨result, announced, after, handled, step⟩ := settles_handle hasher w found
    have effect := serve_effect hasher w found
    rw [handled, Effect.finished_andThen] at effect
    obtain ⟨outcome, events, state⟩ := Run.effect_eq effect
    refine ⟨_, outcome, ?_⟩
    rw [events, state]
    simpa [Effect.quiet] using step

end Folio.Http
