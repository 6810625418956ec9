import Folio.Proofs.Http.Entry
import Folio.Proofs.Http.Reach

/-!
# Revoked sessions

Whoever comes with a session that no longer authenticates anybody is answered as if there were no
session, on every page. The two answers differ in what they do to the cookie at most.
-/

namespace Folio.Http

open Program

variable {hasher : Password.Hasher} {salt : List UInt8} {trace : Option TraceId} {w : World}
  {s₁ s₂ : Session}

/-- Two effects of handlers that differ in the session they leave at most. -/
structure SameButSession (e₁ e₂ : Effect (Except Problem Response × Session) World) : Prop where
  result : ∃ result left₁ left₂, e₁.outcome = .finished (result, left₁) ∧
    e₂.outcome = .finished (result, left₂)
  events : e₁.events = e₂.events
  state : e₁.state = e₂.state

theorem sameButSession_quiet (result : Except Problem Response) (s₁ s₂ : Session) (w : World) :
    SameButSession (.quiet (result, s₁) w) (.quiet (result, s₂) w) :=
  ⟨⟨result, s₁, s₂, rfl, rfl⟩, rfl, rfl⟩

/-! ### Ways in -/

/-- Whether credentials are admitted has nothing to do with the session. -/
theorem sameButSession_admitted (users : Users) (trace : Option TraceId)
    (credentials : LoginCredentials) (target : String) (s₁ s₂ : Session) (w : World) :
    SameButSession (.quiet (Handler.admitted hasher users trace credentials target s₁) w)
      (.quiet (Handler.admitted hasher users trace credentials target s₂) w) := by
  unfold Handler.admitted
  cases Account.authenticated hasher users trace credentials with
  | error problem => exact sameButSession_quiet _ _ _ w
  | ok id =>
    dsimp only
    cases users.generation? id with
    | none => exact sameButSession_quiet _ _ _ w
    | some generation => exact sameButSession_quiet _ _ _ w

theorem sameButSession_register (fresh : UserId) (form : List (String × String))
    (s₁ s₂ : Session) :
    SameButSession
      (Handler.effect (World.answer hasher salt) (Handler.register trace fresh form) s₁ w)
      (Handler.effect (World.answer hasher salt) (Handler.register trace fresh form) s₂ w) := by
  rw [Handler.effect_register, Handler.effect_register]
  cases Registration.ofFields (field form "username") (field form "password1")
      (field form "password2") with
  | error errors => exact sameButSession_quiet _ _ _ w
  | ok registration =>
    dsimp only
    obtain ⟨result, users⟩ := Account.registered hasher salt w.users trace fresh registration
    cases result with
    | error problem => exact sameButSession_quiet _ _ _ _
    | ok user => exact sameButSession_admitted _ _ _ _ _ _ _

theorem sameButSession_login (next : String) (form : List (String × String)) (s₁ s₂ : Session) :
    SameButSession
      (Handler.effect (World.answer hasher salt) (Handler.login trace next form) s₁ w)
      (Handler.effect (World.answer hasher salt) (Handler.login trace next form) s₂ w) := by
  rw [Handler.effect_login, Handler.effect_login]
  split
  · exact sameButSession_quiet _ _ _ w
  · cases LoginCredentials.ofFields (field form "username") (field form "password") with
    | error e => exact sameButSession_quiet _ _ _ w
    | ok credentials => exact sameButSession_admitted _ _ _ _ _ _ _

/-! ### Pages that ask who visits -/

section Anonymous

variable (first : (checked trace w.users s₁).1 = .ok none)
  (second : (checked trace w.users s₂).1 = .ok none)
include first second

theorem sameButSession_logout :
    SameButSession (Handler.effect (World.answer hasher salt) (Handler.logout trace) s₁ w)
      (Handler.effect (World.answer hasher salt) (Handler.logout trace) s₂ w) := by
  rw [Handler.effect_logout, Handler.effect_logout, first, second]
  exact sameButSession_quiet _ _ _ w

theorem sameButSession_profile (segment : String) :
    SameButSession
      (Handler.effect (World.answer hasher salt) (Handler.profile trace segment) s₁ w)
      (Handler.effect (World.answer hasher salt) (Handler.profile trace segment) s₂ w) := by
  rw [Handler.effect_profile, Handler.effect_profile]
  cases Username.verbatim? segment with
  | none => exact sameButSession_quiet _ _ _ w
  | some name =>
    dsimp only
    generalize checked trace w.users s₁ = left at first ⊢
    generalize checked trace w.users s₂ = right at second ⊢
    obtain ⟨_, left⟩ := left
    obtain ⟨_, right⟩ := right
    cases first
    cases second
    dsimp only
    cases w.users.findUsername? name with
    | none => exact sameButSession_quiet _ _ _ w
    | some user => exact sameButSession_quiet _ _ _ w

theorem sameButSession_addressed (segment : String)
    (act : User → User → Session → Effect (Except Problem Response × Session) World) :
    SameButSession (Handler.addressed trace segment s₁ w act)
      (Handler.addressed trace segment s₂ w act) := by
  rw [Handler.addressed_anonymous first, Handler.addressed_anonymous second]
  exact sameButSession_quiet _ _ _ w

end Anonymous

/-- Sessions that authenticate nobody make no difference to any page. -/
theorem sameButSession_handle (context : Context) (request : Request) (route : Route)
    (first : (checked (some context.trace) w.users s₁).1 = .ok none)
    (second : (checked (some context.trace) w.users s₂).1 = .ok none) :
    SameButSession
      (Handler.effect (World.answer hasher salt) (App.handle context request route) s₁ w)
      (Handler.effect (World.answer hasher salt) (App.handle context request route) s₂ w) := by
  cases route with
  | registrationForm => exact sameButSession_quiet _ _ _ w
  | register =>
    unfold App.handle
    cases request.form registrationFields with
    | error fault => exact sameButSession_quiet _ _ _ w
    | ok form => exact sameButSession_register _ form s₁ s₂
  | loginForm =>
    unfold App.handle
    cases request.next with
    | error fault => exact sameButSession_quiet _ _ _ w
    | ok next => exact sameButSession_quiet _ _ _ w
  | login =>
    unfold App.handle
    cases request.next with
    | error fault => exact sameButSession_quiet _ _ _ w
    | ok next =>
      dsimp only
      cases request.form loginFields with
      | error fault => exact sameButSession_quiet _ _ _ w
      | ok form => exact sameButSession_login next form s₁ s₂
  | logout => exact sameButSession_logout first second
  | profile segment => exact sameButSession_profile first second segment
  | follow segment =>
    unfold App.handle
    rw [Handler.effect_follow, Handler.effect_follow]
    exact sameButSession_addressed first second segment _
  | unfollow segment =>
    unfold App.handle
    rw [Handler.effect_unfollow, Handler.effect_unfollow]
    exact sameButSession_addressed first second segment _
  | ready => exact sameButSession_quiet _ _ _ w
  | live => exact sameButSession_quiet _ _ _ w
  | apiDocument => exact sameButSession_quiet _ _ _ w

/-! ### Visits -/

def Visit.sending (visit : Visit) (session : Option SessionContent) : Visit :=
  { visit with request := { visit.request with session } }

/-- All of a response but what it does to the cookie. -/
def Response.withoutCookie (response : Response) : Response :=
  { response with cookie := none }

/-- Two runs with the same answer up to the cookie, the same events and the same state. -/
structure SameButCookie (run₁ run₂ : Run Response World) : Prop where
  response : ∃ response₁ response₂, run₁.outcome = .finished response₁ ∧
    run₂.outcome = .finished response₂ ∧ response₁.withoutCookie = response₂.withoutCookie
  events : run₁.events = run₂.events
  state : run₁.state = run₂.state

theorem sameButCookie_of_handled {context : Context} {run₁ run₂ : Run Response World}
    {e₁ e₂ : Effect (Except Problem Response × Session) World} (same : SameButSession e₁ e₂)
    (effect₁ : run₁.effect = e₁.andThen fun result w => .quiet (answered context result) w)
    (effect₂ : run₂.effect = e₂.andThen fun result w => .quiet (answered context result) w) :
    SameButCookie run₁ run₂ := by
  obtain ⟨⟨result, left₁, left₂, ended₁, ended₂⟩, events, state⟩ := same
  obtain ⟨_, _, _⟩ := e₁
  obtain ⟨_, _, _⟩ := e₂
  cases ended₁
  cases ended₂
  cases events
  cases state
  rw [Effect.finished_andThen] at effect₁ effect₂
  obtain ⟨outcome₁, events₁, state₁⟩ := Run.effect_eq effect₁
  obtain ⟨outcome₂, events₂, state₂⟩ := Run.effect_eq effect₂
  -- What is left of the session goes into the cookie and nowhere else.
  exact ⟨⟨_, _, outcome₁, outcome₂, rfl⟩, events₁.trans events₂.symm, state₁.trans state₂.symm⟩

theorem handle_sending (visit : Visit) (session : Option SessionContent) (route : Route) :
    App.handle (visit.sending session).context (visit.sending session).request route =
      App.handle visit.context visit.request route := by
  cases route <;> rfl

theorem serve_sending {visit : Visit} {route : Route} (found : visit.route? = some route)
    (session : Option SessionContent) :
    (serve hasher (visit.sending session) w).effect =
      (Handler.effect (World.answer hasher visit.salt)
        (App.handle visit.context visit.request route) (.start session) w).andThen
        fun result w => .quiet (answered visit.context result) w := by
  have same : (visit.sending session).route? = some route := found
  rw [serve_effect hasher w same, handle_sending]
  rfl

theorem serve_anonymous (visit : Visit) {session₁ session₂ : Option SessionContent}
    (first : (checked visit.trace w.users (.start session₁)).1 = .ok none)
    (second : (checked visit.trace w.users (.start session₂)).1 = .ok none) :
    SameButCookie (serve hasher (visit.sending session₁) w)
      (serve hasher (visit.sending session₂) w) := by
  cases found : visit.route? with
  | none =>
    have unknown₁ : (visit.sending session₁).route? = none := found
    have unknown₂ : (visit.sending session₂).route? = none := found
    obtain ⟨outcome₁, events₁, state₁⟩ := Run.effect_eq (serve_unrouted hasher w unknown₁)
    obtain ⟨outcome₂, events₂, state₂⟩ := Run.effect_eq (serve_unrouted hasher w unknown₂)
    exact ⟨⟨_, _, outcome₁, outcome₂, rfl⟩, events₁.trans events₂.symm, state₁.trans state₂.symm⟩
  | some route =>
    exact sameButCookie_of_handled
      (sameButSession_handle visit.context visit.request route first second)
      (serve_sending found session₁) (serve_sending found session₂)

def IssuedIn (hasher : Password.Hasher) (w : World) (visits : List Visit)
    (content : SessionContent) : Prop :=
  ∃ i visit, visits[i]? = some visit ∧
    issued hasher visit (worldBefore hasher w visits i) = some content

/-- A session that was set here can be read, so that all that a check of it finds is whether it
still authenticates its user. -/
theorem checked_revoked {visits : List Visit} {content : SessionContent} {start : World}
    (sets : IssuedIn hasher start visits content)
    (revoked : ∀ id, sessionUser hasher salt trace (some content) w ≠ .finished (.ok (some id))) :
    (checked trace w.users (.start (some content))).1 = .ok none := by
  obtain ⟨_, _, _, sets⟩ := sets
  have read : (checked trace w.users (.start (some content))).1 =
      .ok (authenticated w.users content) := checked_readable trace (readable_of_issued sets)
  rw [read]
  cases valid : authenticated w.users content with
  | none => rfl
  | some id =>
    refine (revoked id ?_).elim
    rw [sessionUser_eq, read, valid]

/-- Revoked means anonymous. At every point of every run, a visit with a session that was set before
and no longer authenticates anybody has the same answer but for the cookie, the same events and the
same effect on the stores as the visit without a session. -/
theorem revoked_is_anonymous (hasher : Password.Hasher) (w : World) (visits : List Visit)
    {content : SessionContent} (sets : IssuedIn hasher w visits content) (visit : Visit)
    (revoked : ∀ id, sessionUser hasher visit.salt visit.trace (some content)
      (worldAfter hasher w visits) ≠ .finished (.ok (some id))) :
    SameButCookie (serve hasher (visit.sending (some content)) (worldAfter hasher w visits))
      (serve hasher (visit.sending none) (worldAfter hasher w visits)) :=
  serve_anonymous visit (checked_revoked sets revoked) rfl

def leavingVisits : List Visit :=
  [registerAda, .numbered 2 "GET" "/accounts/logout" "" (some (enteredContent ⟨⟨1⟩⟩ .initial []))]

theorem revoked_is_anonymous_follow : ∃ content,
    issued plainHasher registerAda (emptyWorld .initial) = some content ∧
    SameButCookie
      (serve plainHasher ((Visit.numbered 3 "POST" "/profiles/ada" "" none).sending (some content))
        (worldAfter plainHasher (emptyWorld .initial) leavingVisits))
      (serve plainHasher ((Visit.numbered 3 "POST" "/profiles/ada" "" none).sending none)
        (worldAfter plainHasher (emptyWorld .initial) leavingVisits)) := by
  obtain ⟨opened, moved⟩ : (issued plainHasher registerAda (emptyWorld .initial)).map
        (fun content => (claimOf content).toOption) = some (some (some (⟨⟨1⟩⟩, .initial))) ∧
      (worldAfter plainHasher (emptyWorld .initial) leavingVisits).users.generation? ⟨⟨1⟩⟩ ≠
        some .initial := by
    decide +kernel
  obtain ⟨content, sets, named⟩ := Option.map_eq_some_iff.mp opened
  refine ⟨content, sets, revoked_is_anonymous plainHasher (emptyWorld .initial) leavingVisits
    ⟨0, registerAda, rfl, sets⟩ _ ?_⟩
  intro id same
  rw [sessionUser_readable _ _ (readable_of_issued sets)] at same
  unfold authenticated at same
  cases read : claimOf content with
  | error e =>
    rw [read] at named
    cases named
  | ok claim =>
    rw [read] at named same
    cases named
    dsimp only at same
    rw [if_neg moved] at same
    cases same

end Folio.Http
