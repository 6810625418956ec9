import Folio.Proofs.Http.LoginRefusal

/-!
# Where a login leads

A login whose credentials belong to somebody opens a session and redirects to `next`, or home when
that is empty. A target that no header can hold is found out only when the session is open: the
answer is then a server error, with the session in its cookie.
-/

namespace Folio.Http

open Program

variable {hasher : Password.Hasher} {visit : Visit} {w : World}

/-! ### Redirections and refusals -/

theorem redirect_writable {target : String} (writable : isHeaderText target = true) :
    Response.redirect target = { status := 302, body := .empty, location := some target } :=
  if_pos writable

theorem redirect_unwritable {target : String} (unwritable : isHeaderText target = false) :
    Response.redirect target = .badHeader := by
  unfold Response.redirect
  rw [if_neg (by simp [unwritable])]

theorem isHeaderText_nextOrHome (next : String) :
    isHeaderText (nextOrHome next) = isHeaderText next := by
  unfold nextOrHome
  split
  · rename_i empty
    subst empty
    decide
  · rfl

theorem redirect_nextOrHome_status (next : String) :
    (Response.redirect (nextOrHome next)).status = 302 ↔ isHeaderText next = true := by
  rw [← isHeaderText_nextOrHome next]
  cases written : isHeaderText (nextOrHome next) with
  | true => simp [redirect_writable written]
  | false => simp [redirect_unwritable written, Response.badHeader]

theorem problem_no_redirect (problem : Problem) : answerStatus (.error problem) ≠ 302 := by
  rcases answerStatus_problem problem with status | status
  · rw [status]
    cases problem.code <;> decide
  · rw [status]
    decide

theorem formFault_no_redirect (fault : FormFault) :
    answerStatus (.ok (.ofFormFault fault)) ≠ 302 := by
  cases fault with
  | contentType => exact nofun
  | tooLarge size => exact nofun
  | duplicate field => exact nofun

theorem queryFault_no_redirect (fault : FormFault) :
    answerStatus (.ok (.ofQueryFault fault)) ≠ 302 := by
  cases fault with
  | contentType => exact formFault_no_redirect _
  | tooLarge size => exact formFault_no_redirect _
  | duplicate field => exact nofun

/-! ### Logins -/

/-- A login is turned down without a session, or opens one and redirects. -/
inductive LoginEnds (visit : Visit) : Except Problem Response × Session → Prop where
  | refused {result : Except Problem Response} (refusal : answerStatus result ≠ 302) :
      LoginEnds visit (result, .start visit.request.session)
  | opened {next : String} (asked : visit.request.next = .ok next) (id : UserId)
      (generation : Generation) :
      LoginEnds visit (.ok (.redirect (nextOrHome next)),
        Handler.entered id generation (.start visit.request.session))

theorem loginEnds_admitted {next : String} (asked : visit.request.next = .ok next)
    (credentials : LoginCredentials) (users : Users) :
    LoginEnds visit (Handler.admitted hasher users visit.trace credentials (nextOrHome next)
      (.start visit.request.session)) := by
  rcases admitted_cases hasher users visit.trace credentials (nextOrHome next)
    (.start visit.request.session) with
    ⟨problem, refused⟩ | ⟨_, stored, generation, _, _, _, _, opened⟩
  · rw [refused]
    exact .refused (problem_no_redirect problem)
  · rw [opened]
    exact .opened asked _ generation

theorem serve_login_ends (hasher : Password.Hasher) (w : World)
    (route : visit.route? = some .login) :
    ∃ result, (serve hasher visit w).effect = .quiet (answered visit.context result) w ∧
      LoginEnds visit result := by
  rw [serve_effect hasher w route]
  unfold App.handle
  cases asked : visit.request.next with
  | error fault => exact ⟨_, rfl, .refused (queryFault_no_redirect fault)⟩
  | ok next =>
    dsimp only
    cases visit.request.form loginFields with
    | error fault => exact ⟨_, rfl, .refused (formFault_no_redirect fault)⟩
    | ok form =>
      dsimp only
      rw [Handler.effect_login, Effect.quiet_andThen]
      refine ⟨_, rfl, ?_⟩
      split
      · exact .refused (problem_no_redirect _)
      · split
        · exact .refused (problem_no_redirect _)
        · exact loginEnds_admitted asked _ _

/-- A session in the answer to a login, and a redirection but for a target that no header can
hold. -/
theorem loginEnds_answered {result : Except Problem Response × Session}
    (ends : LoginEnds visit result) :
    (answered visit.context result).status = 302 ↔
      (answered visit.context result).session?.isSome = true ∧
        ∀ next, visit.request.next = .ok next → isHeaderText next = true := by
  cases ends with
  | refused refusal =>
    rw [answered_start_session, answered_status]
    constructor
    · intro redirected
      exact (refusal redirected).elim
    · rintro ⟨set, _⟩
      cases set
  | @opened next asked id generation =>
    rw [answered_entered_session, answered_status]
    have status := redirect_nextOrHome_status next
    constructor
    · intro redirected
      refine ⟨rfl, ?_⟩
      intro other again
      cases asked.symm.trans again
      exact status.mp redirected
    · rintro ⟨_, written⟩
      exact status.mpr (written next asked)

/-- Credentials that belong to somebody are admitted, also in a run that uses ids again. -/
theorem serve_login_known {form : List (String × String)} {next : String}
    (built : w.users.Built) (route : visit.route? = some .login)
    (asked : visit.request.next = .ok next) (sent : visit.request.form loginFields = .ok form)
    (given : field form "password" ≠ "")
    (known : w.users.Authenticates hasher (field form "username") (field form "password")) :
    ∃ id generation, (serve hasher visit w).effect =
      .quiet (answered visit.context (.ok (.redirect (nextOrHome next)),
        Handler.entered id generation (.start visit.request.session))) w := by
  obtain ⟨name, stored, found, text, verified⟩ := known
  have named : Text.trim (field form "username") ≠ "" := by
    rw [← text]
    exact name.nonempty
  obtain ⟨id, _, record⟩ := Option.bind_eq_some_iff.mp found
  obtain ⟨generation, current⟩ := Users.built_counted built record
  rw [← Users.built_keyed built record] at current
  refine ⟨stored.user.id, generation, ?_⟩
  rw [serve_login hasher w route asked sent named given]
  generalize written : LoginCredentials.mk (Text.trim (field form "username"))
    (field form "password") = credentials
  have read : Username.parse credentials.username = .ok name := by
    rw [← written, ← text]
    exact Username.parse_text name
  have accepted : hasher.verify credentials.password stored.hash = .ok true := by
    rw [← written]
    exact verified
  rw [admitted_of_verified read found accepted current]

/-- How a login with known credentials is answered: a session in any case, and a redirection to the
target if a header can hold it. -/
structure Admission (next : String) (response : Response) : Prop where
  session : response.session?.isSome = true
  redirects : isHeaderText next = true →
    response.status = 302 ∧ response.location = some (if next = "" then "/" else next)
  fails : isHeaderText next = false → response.status = 500 ∧ response.location = none

theorem login_known {form : List (String × String)} {next : String} {response : Response}
    (built : w.users.Built) (route : visit.route? = some .login)
    (asked : visit.request.next = .ok next) (sent : visit.request.form loginFields = .ok form)
    (given : field form "password" ≠ "")
    (known : w.users.Authenticates hasher (field form "username") (field form "password"))
    (ended : (serve hasher visit w).outcome = .finished response) : Admission next response := by
  obtain ⟨id, generation, effect⟩ := serve_login_known built route asked sent given known
  cases (Run.effect_eq effect).1.symm.trans ended
  refine ⟨?_, ?_, ?_⟩
  · rw [answered_entered_session]
    rfl
  · intro writable
    rw [← isHeaderText_nextOrHome] at writable
    unfold answered
    dsimp only
    rw [redirect_writable writable]
    exact ⟨rfl, rfl⟩
  · intro unwritable
    rw [← isHeaderText_nextOrHome] at unwritable
    unfold answered
    dsimp only
    rw [redirect_unwritable unwritable]
    exact ⟨rfl, rfl⟩

/-- A login with the credentials of somebody opens a session and redirects to its target, or fails
if no header can hold the target. In general a login redirects exactly when it opens a session and
its target can be held. -/
theorem login_redirects_if_writable (hasher : Password.Hasher) (dispatcher : Dispatcher)
    (visits : List Visit) {w : World}
    (reached : worldAfter hasher (emptyWorld dispatcher) visits = w) (visit : Visit)
    (route : visit.route? = some .login) :
    ∃ response, (serve hasher visit w).outcome = .finished response ∧
      (∀ next form, visit.request.next = .ok next → visit.request.form loginFields = .ok form →
        field form "password" ≠ "" →
        w.users.Authenticates hasher (field form "username") (field form "password") →
        Admission next response) ∧
      (response.status = 302 ↔ response.session?.isSome = true ∧
        ∀ next, visit.request.next = .ok next → isHeaderText next = true) := by
  have built : w.users.Built := by
    rw [← reached]
    exact run_built hasher dispatcher visits
  obtain ⟨result, effect, ends⟩ := serve_login_ends hasher w route
  have ended := (Run.effect_eq effect).1
  refine ⟨_, ended, ?_, loginEnds_answered ends⟩
  intro next form asked sent given known
  exact login_known built route asked sent given known ended

theorem ada_authenticates :
    (worldAfter plainHasher (emptyWorld .initial) [registerAda]).users.Authenticates plainHasher
      "ada" "pw" :=
  ⟨ada, ⟨⟨⟨⟨1⟩⟩, ada⟩, ⟨"pw"⟩⟩, by decide +kernel, by decide +kernel, rfl⟩

theorem login_redirects_if_writable_ada : ∃ response,
    (serve plainHasher loginAda
      (worldAfter plainHasher (emptyWorld .initial) [registerAda])).outcome = .finished response ∧
      response.session?.isSome = true ∧ response.status = 302 ∧
      response.location = some "/profiles/ada" := by
  obtain ⟨response, ended, admission, _⟩ := login_redirects_if_writable plainHasher .initial
    [registerAda] rfl loginAda (by decide +kernel)
  have known : (worldAfter plainHasher (emptyWorld .initial) [registerAda]).users.Authenticates
      plainHasher " ada " "pw" := by
    obtain ⟨name, stored, found, text, verified⟩ := ada_authenticates
    exact ⟨name, stored, found, text.trans (by decide +kernel), verified⟩
  obtain ⟨session, redirects, _⟩ := admission "/profiles/ada"
    [("username", " ada "), ("password", "pw")] (by decide +kernel) (by decide +kernel)
    (by decide +kernel) known
  obtain ⟨status, location⟩ := redirects (by decide +kernel)
  exact ⟨response, ended, session, status, location⟩

/-- A login whose target has a line break in it. -/
def loginBroken : Visit :=
  .numbered 2 "POST" "/accounts/login?next=/a%0Ab" "username=ada&password=pw" none

/-- The session is open, and the answer is a server error. -/
theorem broken_target_fails :
    loginBroken.route? = some .login ∧
    loginBroken.request.next = .ok "/a\nb" ∧
    loginBroken.request.form loginFields = .ok [("username", "ada"), ("password", "pw")] ∧
    (worldAfter plainHasher (emptyWorld .initial) [registerAda]).users.Authenticates plainHasher
      "ada" "pw" ∧
    ∃ response, (serve plainHasher loginBroken
        (worldAfter plainHasher (emptyWorld .initial) [registerAda])).outcome =
          .finished response ∧
      response.session?.isSome = true ∧ response.status = 500 ∧ response.location = none := by
  have route : loginBroken.route? = some .login := by decide +kernel
  have asked : loginBroken.request.next = .ok "/a\nb" := by decide +kernel
  have sent : loginBroken.request.form loginFields =
      .ok [("username", "ada"), ("password", "pw")] := by decide +kernel
  refine ⟨route, asked, sent, ada_authenticates, ?_⟩
  obtain ⟨response, ended, _⟩ := serve_cases plainHasher loginBroken
    (worldAfter plainHasher (emptyWorld .initial) [registerAda])
  obtain ⟨session, _, fails⟩ := login_known (run_built plainHasher .initial [registerAda]) route
    asked sent (by decide +kernel) ada_authenticates ended
  obtain ⟨status, location⟩ := fails (by decide +kernel)
  exact ⟨response, ended, session, status, location⟩

end Folio.Http
