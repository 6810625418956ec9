import Folio.Proofs.Http.FollowLog
import Folio.Proofs.Http.ProblemResponse

/-!
# Trace ids

Everything that leaves a visit carries its trace id: the header of the response, the problem in the
body if there is one, and the events that are announced.
-/

namespace Folio

open Program

/-- A problem as JSON has a code, and its trace id where it has one. -/
theorem Problem.toJson_members (problem : Problem) :
    ∃ members, problem.toJson = .obj members ∧
      members.lookup "code" = some (.str problem.code.name) ∧
      members.lookup "traceId" = problem.traceId.map .str := by
  refine ⟨_, rfl, rfl, ?_⟩
  cases problem.details with
  | none =>
    cases problem.traceId with
    | none => rfl
    | some id => rfl
  | some details =>
    cases problem.traceId with
    | none => rfl
    | some id => rfl

theorem Problem.traceId_of_toJson {one other : Problem} (same : one.toJson = other.toJson) :
    one.traceId = other.traceId := by
  obtain ⟨members, shown, _, id⟩ := one.toJson_members
  obtain ⟨others, otherShown, _, otherId⟩ := other.toJson_members
  rw [shown, otherShown] at same
  cases same
  exact Option.map_injective (fun _ _ => Json.str.inj) (id.symm.trans otherId)

namespace Http

variable {hasher : Password.Hasher} {visit : Visit} {w : World} {trace : Option TraceId}

/-- What a handler comes to: a problem that carries the trace id, or a page that is no problem. -/
def Marked (trace : Option TraceId) : Except Problem Response → Prop
  | .ok response => ∀ problem : Problem, response.body ≠ .json problem.toJson
  | .error problem => problem.traceId = trace.map TraceId.render

theorem marked_page {page : Json} (plain : (page.member? "code").isNone = true) :
    Marked trace (.ok (.ok page)) := by
  intro problem same
  obtain ⟨members, shown, code, _⟩ := problem.toJson_members
  have equal : page = .obj members := (Body.json.inj same).trans shown
  rw [equal, Json.member?, code] at plain
  cases plain

theorem marked_redirect (target : String) : Marked trace (.ok (.redirect target)) := by
  unfold Response.redirect
  split
  · exact nofun
  · exact nofun

theorem marked_formFault (fault : FormFault) : Marked trace (.ok (.ofFormFault fault)) :=
  nofun

theorem marked_queryFault (fault : FormFault) : Marked trace (.ok (.ofQueryFault fault)) := by
  cases fault with
  | contentType => exact marked_formFault _
  | tooLarge size => exact marked_formFault _
  | duplicate field => exact nofun

theorem marked_health (healthy : Bool) : Marked trace (.ok (.health healthy)) :=
  nofun

theorem checked_marked {users : Users} {session : Session} {problem : Problem}
    (failed : (checked trace users session).1 = .error problem) :
    problem.traceId = trace.map TraceId.render := by
  unfold checked at failed
  split at failed
  · cases failed
    rfl
  · cases failed
  · split at failed
    · cases failed
    · cases failed

theorem authenticated_marked {users : Users} {credentials : LoginCredentials} {problem : Problem}
    (failed : Account.authenticated hasher users trace credentials = .error problem) :
    problem.traceId = trace.map TraceId.render := by
  rcases Account.authenticated_error hasher failed with rfl | ⟨e, rfl⟩
  · rfl
  · rfl

theorem registered_marked {salt : List UInt8} {users after : Users} {fresh : UserId}
    {registration : Registration} {problem : Problem}
    (failed : Account.registered hasher salt users trace fresh registration =
      (.error problem, after)) : problem.traceId = trace.map TraceId.render := by
  unfold Account.registered at failed
  split at failed
  · cases failed
    rfl
  · split at failed
    · cases failed
      rfl
    · split at failed
      · cases failed
      · cases failed
        rfl

theorem admitted_marked (hasher : Password.Hasher) (users : Users) (trace : Option TraceId)
    (credentials : LoginCredentials) (target : String) (session : Session) :
    Marked trace (Handler.admitted hasher users trace credentials target session).1 := by
  unfold Handler.admitted
  split
  · rename_i problem failed
    exact authenticated_marked failed
  · split
    · exact marked_redirect target
    · exact rfl

/-! ### Handlers -/

/-- A handler ends with a marked result. -/
def Marks (visit : Visit) (e : Effect (Except Problem Response × Session) World) : Prop :=
  ∃ result events after, e = ⟨.finished result, events, after⟩ ∧ Marked visit.trace result.1

theorem marks_page {response : Response} (marked : Marked visit.trace (.ok response))
    (session : Session) (w : World) : Marks visit (.quiet (.ok response, session) w) :=
  ⟨_, _, _, rfl, marked⟩

theorem marks_problem {problem : Problem}
    (traced : problem.traceId = visit.trace.map TraceId.render) (session : Session) (w : World) :
    Marks visit (.quiet (.error problem, session) w) :=
  ⟨_, _, _, rfl, traced⟩

theorem marks_admitted (hasher : Password.Hasher) (users : Users)
    (credentials : LoginCredentials) (target : String) (session : Session) (w : World) :
    Marks visit
      (.quiet (Handler.admitted hasher users visit.trace credentials target session) w) := by
  have marked := admitted_marked hasher users visit.trace credentials target session
  exact ⟨_, _, _, rfl, marked⟩

theorem marks_register (form : List (String × String)) (session : Session) :
    Marks visit (Handler.effect (World.answer hasher visit.salt)
      (Handler.register visit.trace visit.context.freshId form) session w) := by
  rw [Handler.effect_register]
  split
  · exact marks_problem rfl session w
  · rename_i registration _
    split
    · rename_i failed
      exact marks_problem (registered_marked failed) session _
    · exact marks_admitted hasher _ _ _ session _

theorem marks_login (next : String) (form : List (String × String)) (session : Session) :
    Marks visit (Handler.effect (World.answer hasher visit.salt)
      (Handler.login visit.trace next form) session w) := by
  rw [Handler.effect_login]
  split
  · exact marks_problem rfl session w
  · split
    · exact marks_problem rfl session w
    · exact marks_admitted hasher _ _ _ session w

theorem marks_logout (session : Session) :
    Marks visit (Handler.effect (World.answer hasher visit.salt) (Handler.logout visit.trace)
      session w) := by
  rw [Handler.effect_logout]
  split
  · exact marks_page (marked_redirect homePath) _ _
  · exact marks_page (marked_redirect homePath) _ w
  · rename_i failed
    exact marks_problem (checked_marked failed) _ w

theorem marks_profile (segment : String) (session : Session) :
    Marks visit (Handler.effect (World.answer hasher visit.salt)
      (Handler.profile visit.trace segment) session w) := by
  rw [Handler.effect_profile]
  split
  · exact marks_problem rfl session w
  · split
    · rename_i failed
      exact marks_problem (checked_marked (congrArg Prod.fst failed)) _ w
    · split
      · exact marks_problem rfl _ w
      · exact marks_page (marked_page rfl) _ w

theorem marks_addressed (segment : String) (session : Session)
    {act : User → User → Session → Effect (Except Problem Response × Session) World}
    (acts : ∀ follower following session, Marks visit (act follower following session)) :
    Marks visit (Handler.addressed visit.trace segment session w act) := by
  unfold Handler.addressed
  split
  · rename_i failed
    exact marks_problem (checked_marked (congrArg Prod.fst failed)) _ w
  · exact marks_problem rfl _ w
  · split
    · exact marks_problem rfl _ w
    · split
      · exact marks_problem rfl _ w
      · exact marks_problem rfl _ w
      · exact acts _ _ _

theorem marks_follow (segment : String) (session : Session) :
    Marks visit (Handler.effect (World.answer hasher visit.salt)
      (Handler.follow visit.trace segment) session w) := by
  rw [Handler.effect_follow]
  refine marks_addressed segment session ?_
  intro follower following session
  unfold Handler.followed
  split
  · exact marks_page (marked_page rfl) session w
  · exact ⟨_, _, _, rfl, marked_page rfl⟩

theorem marks_unfollow (segment : String) (session : Session) :
    Marks visit (Handler.effect (World.answer hasher visit.salt)
      (Handler.unfollow visit.trace segment) session w) := by
  rw [Handler.effect_unfollow]
  refine marks_addressed segment session ?_
  intro follower following session
  exact ⟨_, _, _, rfl, marked_page rfl⟩

theorem marks_handle (hasher : Password.Hasher) (visit : Visit) (w : World) (route : Route) :
    Marks visit (Handler.effect (World.answer hasher visit.salt)
      (App.handle visit.context visit.request route) (.start visit.request.session) w) := by
  cases route with
  | registrationForm =>
    have plain : (registrationForm.member? "code").isNone = true := rfl
    exact marks_page (marked_page plain) _ w
  | register =>
    unfold App.handle
    cases visit.request.form registrationFields with
    | error fault => exact marks_page (marked_formFault fault) _ w
    | ok form => exact marks_register form _
  | loginForm =>
    unfold App.handle
    cases visit.request.next with
    | error fault => exact marks_page (marked_queryFault fault) _ w
    | ok next =>
      have plain : ((loginForm next).member? "code").isNone = true := rfl
      exact marks_page (marked_page plain) _ w
  | login =>
    unfold App.handle
    cases visit.request.next with
    | error fault => exact marks_page (marked_queryFault fault) _ w
    | ok next =>
      dsimp only
      cases visit.request.form loginFields with
      | error fault => exact marks_page (marked_formFault fault) _ w
      | ok form => exact marks_login next form _
  | logout => exact marks_logout _
  | profile segment => exact marks_profile segment _
  | follow segment => exact marks_follow segment _
  | unfollow segment => exact marks_unfollow segment _
  | ready => exact marks_page (marked_health _) _ w
  | live => exact marks_page (marked_health _) _ w
  | apiDocument =>
    have plain : (OpenApi.document.member? "code").isNone = true := by decide +kernel
    exact marks_page (marked_page plain) _ w

/-! ### Visits -/

/-- A problem in the body of an answer carries the trace id. -/
theorem answered_marked {result : Except Problem Response} (marked : Marked visit.trace result)
    (session : Session) {problem : Problem}
    (shows : (answered visit.context (result, session)).body = .json problem.toJson) :
    problem.traceId = some visit.context.trace.render := by
  cases result with
  | ok response => exact (marked problem shows).elim
  | error raised =>
    have body : (Response.ofProblem raised).body = .json problem.toJson := shows
    rw [ofProblem_traced marked] at body
    have same := Problem.traceId_of_toJson (Body.json.inj body)
    rw [← same, redact_traceId]
    exact marked

theorem step_marked {events : List FollowEvent} {after : World}
    (step : Step hasher visit w events after) : ∀ event ∈ events, event.trace = visit.trace := by
  cases step with
  | still => simp
  | loggedOut => simp
  | registered => simp
  | followed => simp
  | unfollowed => simp

/-- Every visit is answered under its trace id: the header gives it, a problem in the body gives it,
and everything that is announced gives it. -/
theorem trace_correlated (hasher : Password.Hasher) (visit : Visit) (w : World) :
    ∃ response, (serve hasher visit w).outcome = .finished response ∧
      response.traceId = some visit.context.trace.render ∧
      (∀ problem : Problem, response.body = .json problem.toJson →
        problem.traceId = some visit.context.trace.render) ∧
      ∀ event ∈ (serve hasher visit w).events, event.trace = some visit.context.trace := by
  obtain ⟨_, _, step⟩ := serve_cases hasher visit w
  have announced := step_marked step
  cases found : visit.route? with
  | none =>
    have ended := (Run.effect_eq (serve_unrouted hasher w found)).1
    exact ⟨_, ended, rfl, nofun, announced⟩
  | some route =>
    obtain ⟨⟨result, session⟩, events, after, handled, marked⟩ := marks_handle hasher visit w route
    have effect := serve_effect hasher w found
    rw [handled, Effect.finished_andThen] at effect
    have ended := (Run.effect_eq effect).1
    exact ⟨_, ended, rfl, fun _ => answered_marked marked session, announced⟩

/-- Somebody who is not logged in asks to follow ada. -/
def followAda : Visit :=
  .numbered 1 "POST" "/profiles/ada" "" none

theorem trace_correlated_refused : ∃ response, ∃ problem : Problem,
    (serve plainHasher followAda (emptyWorld .initial)).outcome = .finished response ∧
      response.body = .json problem.toJson ∧ problem.traceId = response.traceId := by
  have route : followAda.route? = some (.follow "ada") := by decide +kernel
  have acts : ActsOn plainHasher followAda (emptyWorld .initial) "ada" _ := actsOn_follow route
  unfold ActsOn at acts
  rw [Handler.addressed_anonymous rfl, Effect.quiet_andThen] at acts
  obtain ⟨response, ended, header, same, _⟩ :=
    trace_correlated plainHasher followAda (emptyWorld .initial)
  have body : response.body = .json (Handler.loginRequired followAda.trace).toJson := by
    have traced : (Handler.loginRequired followAda.trace).traceId =
        some followAda.context.trace.render := rfl
    cases ended.symm.trans (Run.effect_eq acts).1
    exact congrArg Response.body (ofProblem_traced traced)
  exact ⟨response, _, ended, body, (same _ body).trans header.symm⟩

end Http

end Folio
