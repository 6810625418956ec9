import Folio.Proofs.Http.Serve
import Folio.Proofs.Program.Calls
import Folio.Proofs.Program.Failure

/-!
# Failures behind the pages

Every page stops at the first failing reply of a store or of the hasher. `failureResponse` is the
table of what is answered then; it has no place for the texts of internal errors.
-/

namespace Folio

def StoreKind.unavailable : StoreKind → String
  | users => "user repository unavailable: "
  | follows => "follow repository unavailable: "
  | documents => "document repository unavailable: "

namespace Http

open Program

def unavailable (trace : Option TraceId) (store : StoreKind) (message : String) : Problem where
  code := .serviceUnavailable
  message := store.unavailable ++ message
  traceId := trace.map TraceId.render
  details := none
  message_visible := Text.isBlankText_append (by cases store <;> decide)

/-- Whether a call of a page is made for the profiles. Registering asks for usernames too, but on
behalf of the accounts. -/
def Route.forProfiles (route : Route) (c : Call) : Bool :=
  c.isProfile && route != .register

/-- What a page answers when a call behind it fails. -/
def failureResponse (route : Route) (trace : Option TraceId) (c : Call) : Failure → Response
  | .connection store message => .ofProblem (unavailable trace store message)
  | .query => .ofProblem (hostProblem trace)
  | .hasher => .ofProblem (hostProblem trace)
  | .usernameTaken =>
    if route.forProfiles c then .ofProblem (hostProblem trace)
    else .ofProblem (Account.nameTaken trace)
  | .alreadyExists =>
    match c with
    | .insertEdge _ => .ok FollowOutcome.alreadyFollowing.toJson
    | _ => .ofProblem (hostProblem trace)

/-- Of an internal problem nothing is shown but its trace id. -/
theorem ofProblem_internal {problem : Problem} {trace : Option TraceId}
    (internal : problem.code = .internalError)
    (traced : problem.traceId = trace.map TraceId.render) :
    Response.ofProblem problem = Response.ofProblem (hostProblem trace) := by
  have redacted : redact problem = redact (hostProblem trace) := by
    have host : (hostProblem trace).code = .internalError := rfl
    unfold redact
    rw [if_pos internal, if_pos host, traced]
    rfl
  unfold Response.ofProblem
  rw [redacted, internal, traced]
  rfl

variable {α β : Type} {route : Route} {trace : Option TraceId} {c : Call}

/-- The response that a result leads to: problems have one, other results where `page` says so. -/
def shown (page : α → Option Response) : Except Problem α → Option Response
  | .ok a => page a
  | .error problem => some (.ofProblem problem)

def noPage (_ : α) : Option Response := none

/-! ### Services -/

def ServiceEnds (route : Route) (trace : Option TraceId) (page : α → Option Response) (c : Call)
    (next : c.Reply → Program (Except Problem α)) : Prop :=
  ∀ reply failure, c.failure? reply = some failure →
    ∃ result, next reply = .done result ∧
      shown page result = some (failureResponse route trace c failure)

def ServiceStops (route : Route) (trace : Option TraceId) (page : α → Option Response)
    (service : Service α) : Prop :=
  service.run.Stops (ServiceEnds route trace page)

theorem serviceStops_pure {page : α → Option Response} (a : α) :
    ServiceStops route trace page (pure a) :=
  .done _

theorem serviceStops_refuse {page : α → Option Response} {message : String}
    (visible : Text.isBlankText message = false) (code : ProblemCode) :
    ServiceStops route trace page (Service.refuse trace code message) := by
  unfold ServiceStops
  rw [Service.run_refuse (Problem.new_of_visible trace code visible)]
  exact .done _

theorem serviceStops_refuseWith {page : α → Option Response} {message : String}
    (visible : Text.isBlankText message = false) (code : ProblemCode) (details : Json) :
    ServiceStops route trace page (Service.refuseWith trace code message details) := by
  unfold ServiceStops
  rw [Service.run_refuseWith (Problem.new_of_visible trace code visible)]
  exact .done _

theorem serviceStops_bind {page : β → Option Response} {service : Service α} {f : α → Service β}
    (first : ServiceStops route trace noPage service)
    (later : ∀ a, ServiceStops route trace page (f a)) :
    ServiceStops route trace page (service >>= f) := by
  refine Program.stops_bind first ?_ ?_
  · intro c next ends reply failure fails
    obtain ⟨result, stopped, told⟩ := ends reply failure fails
    cases result with
    | ok a => cases told
    | error problem =>
      refine ⟨.error problem, ?_, told⟩
      show (next reply).bind _ = _
      rw [stopped]
      rfl
  · intro result
    cases result with
    | ok a => exact later a
    | error problem => exact .done _

theorem serviceStops_ask {page : β → Option Response} {f : c.Reply → Service β}
    (asks : c.isAnnouncement = false)
    (failed : ServiceEnds route trace page c fun reply => (f reply).run)
    (later : ∀ reply, c.failure? reply = none → ServiceStops route trace page (f reply)) :
    ServiceStops route trace page (Service.ask c >>= f) :=
  .call asks failed later

/-- A failure is refused with a problem, and that problem is shown as the table says. -/
def Told (route : Route) (trace : Option TraceId) (c : Call) (failure : Failure)
    (service : Service α) : Prop :=
  ∃ problem, service.run = .done (.error problem) ∧
    Response.ofProblem problem = failureResponse route trace c failure

theorem told_internal {message : String} {failure : Failure}
    (visible : Text.isBlankText message = false)
    (internal : failureResponse route trace c failure = .ofProblem (hostProblem trace)) :
    Told route trace c failure (Service.refuse trace .internalError message : Service α) := by
  refine ⟨_, Service.run_refuse (Problem.new_of_visible trace .internalError visible), ?_⟩
  rw [internal]
  exact ofProblem_internal rfl rfl

theorem told_unavailable (store : StoreKind) (message : String) :
    Told route trace c (.connection store message)
      (Service.refuse trace .serviceUnavailable (store.unavailable ++ message) : Service α) :=
  ⟨unavailable trace store message, Service.run_refuse (Problem.new_of_visible trace _ _), rfl⟩

/-- Most calls are made like this: the reply is looked at, and a failure is refused at once. -/
theorem serviceStops_reply {ε γ : Type} {page : γ → Option Response} {kind : ε → Failure}
    {read : c.Reply → Except ε β} {onError : ε → Service β} {f : β → Service γ}
    (asks : c.isAnnouncement = false)
    (seen : ∀ reply, c.failure? reply = Failure.of? kind (read reply))
    (refused : ∀ e, Told route trace c (kind e) (onError e))
    (later : ∀ b, ServiceStops route trace page (f b)) :
    ServiceStops route trace page
      (Service.ask c >>= fun reply => Service.orElse (read reply) onError >>= f) := by
  refine serviceStops_ask asks ?_ ?_
  · intro reply failure fails
    rw [seen] at fails
    cases got : read reply with
    | ok b =>
      rw [got] at fails
      cases fails
    | error e =>
      rw [got] at fails
      cases fails
      obtain ⟨problem, stopped, told⟩ := refused e
      refine ⟨.error problem, ?_, congrArg some told⟩
      dsimp only
      rw [got]
      exact Service.run_bind_error f stopped
  · intro reply succeeds
    rw [seen] at succeeds
    cases got : read reply with
    | ok b => exact later b
    | error e =>
      rw [got] at succeeds
      cases succeeds

/-- As before, with nothing to do after the reply. -/
theorem serviceStops_last {ε : Type} {page : β → Option Response} {kind : ε → Failure}
    {read : c.Reply → Except ε β} {onError : ε → Service β} (asks : c.isAnnouncement = false)
    (seen : ∀ reply, c.failure? reply = Failure.of? kind (read reply))
    (refused : ∀ e, Told route trace c (kind e) (onError e)) :
    ServiceStops route trace page
      (Service.ask c >>= fun reply => Service.orElse (read reply) onError) := by
  have stops : ServiceStops route trace page
      (Service.ask c >>= fun reply => Service.orElse (read reply) onError >>= pure) :=
    serviceStops_reply asks seen refused serviceStops_pure
  simpa only [bind_pure] using stops

end Http

/-! ### Accounts -/

namespace Account

open Http

variable {α : Type} {route : Route} {trace : Option TraceId} {c : Call}

theorem told_userError (accounts : route.forProfiles c = false) (e : UserStoreError) :
    Told route trace c e.failure (onUserError trace e : Service α) := by
  cases e with
  | connection message => exact told_unavailable .users message
  | query message => exact told_internal (Text.isBlankText_append (by decide)) rfl
  | usernameTaken username =>
    have built := Problem.new_of_visible trace .invalidRequest (nameTaken trace).message_visible
    refine ⟨nameTaken trace, Service.run_refuseWith built _, ?_⟩
    unfold UserStoreError.failure failureResponse
    dsimp only
    rw [accounts]
    rfl

theorem told_hasherError (e : HasherError) :
    Told route trace c e.failure (onHasherError trace e : Service α) :=
  told_internal (hasherFailure trace e).message_visible rfl

theorem stops_refuseLogin {page : α → Option Response} :
    ServiceStops route trace page (refuseLogin trace) :=
  serviceStops_refuseWith invalidLogin_visible _ _

theorem stops_authenticate (credentials : LoginCredentials) :
    ServiceStops route trace noPage (authenticate trace credentials) := by
  unfold authenticate
  split
  · exact stops_refuseLogin
  · refine serviceStops_reply rfl (fun _ => rfl) (told_userError rfl) fun found => ?_
    cases found with
    | none => exact stops_refuseLogin
    | some stored =>
      refine serviceStops_reply rfl (fun _ => rfl) told_hasherError fun verified => ?_
      cases verified with
      | false => exact stops_refuseLogin
      | true => exact serviceStops_pure _

theorem stops_sessionGeneration (id : UserId) :
    ServiceStops route trace noPage (sessionGeneration trace id) :=
  serviceStops_last rfl (fun _ => rfl) (told_userError rfl)

theorem stops_revokeSessions (id : UserId) :
    ServiceStops route trace noPage (revokeSessions trace id) :=
  serviceStops_last rfl (fun _ => rfl) (told_userError rfl)

theorem stops_register (fresh : UserId) (registration : Registration) :
    ServiceStops .register trace noPage (register trace fresh registration) := by
  refine serviceStops_reply rfl (fun _ => rfl) (told_userError rfl) fun existing => ?_
  split
  · exact serviceStops_refuseWith (nameTaken trace).message_visible _ _
  · refine serviceStops_reply rfl (fun _ => rfl) told_hasherError fun hash => ?_
    exact serviceStops_reply rfl (fun _ => rfl) (told_userError rfl) fun _ => serviceStops_pure _

end Account

/-! ### Profiles -/

namespace Profile

open Http

variable {α : Type} {route : Route} {trace : Option TraceId} {c : Call}

theorem told_userError (profiles : route.forProfiles c = true) (e : UserStoreError) :
    Told route trace c e.failure (onUserError trace e : Service α) := by
  cases e with
  | connection message => exact told_unavailable .users message
  | query message => exact told_internal (Text.isBlankText_append (by decide)) rfl
  | usernameTaken username =>
    refine told_internal (Text.isBlankText_append (by decide)) ?_
    unfold UserStoreError.failure failureResponse
    dsimp only
    rw [if_pos profiles]

theorem told_followError (e : FollowStoreError)
    (plain : e = .alreadyExists →
      failureResponse route trace c .alreadyExists = .ofProblem (hostProblem trace)) :
    Told route trace c e.failure (onFollowError trace e : Service α) := by
  cases e with
  | connection message => exact told_unavailable .follows message
  | query message => exact told_internal (Text.isBlankText_append (by decide)) rfl
  | alreadyExists => exact told_internal (by decide) (plain rfl)

theorem told_documentError (e : DocumentStoreError) :
    Told route trace c e.failure (onDocumentError trace e : Service α) := by
  cases e with
  | connection message => exact told_unavailable .documents message
  | query message => exact told_internal (Text.isBlankText_append (by decide)) rfl

theorem stops_refuseUnknown {page : α → Option Response} (username : String) :
    ServiceStops route trace page (refuseUnknown trace username) :=
  serviceStops_refuse (unknownUser trace username).message_visible _

theorem stops_announce (event : FollowEvent) :
    ServiceStops route trace noPage (announce event) :=
  .announce (.done _)

section Stops

variable (other : route ≠ .register)
include other

theorem stops_profileUser (username : Username) :
    ServiceStops route trace noPage (profileUser trace username) := by
  have profiles : route.forProfiles (.findUsername username) = true := by
    simp [Route.forProfiles, Call.isProfile, other]
  refine serviceStops_reply rfl (fun _ => rfl) (told_userError profiles) fun found => ?_
  cases found with
  | some user => exact serviceStops_pure _
  | none => exact stops_refuseUnknown _

theorem stops_requestingUser (id : UserId) :
    ServiceStops route trace noPage (requestingUser trace id) := by
  have profiles : route.forProfiles (.findUser id) = true := by
    simp [Route.forProfiles, Call.isProfile, other]
  refine serviceStops_reply rfl (fun _ => rfl) (told_userError profiles) fun found => ?_
  cases found with
  | some user => exact serviceStops_pure _
  | none => exact serviceStops_refuse (vanishedUser trace).message_visible _

theorem stops_page (username : Username) (viewer : Option UserId) :
    ServiceStops route trace noPage (Profile.page trace username viewer) := by
  refine serviceStops_bind (stops_profileUser other username) fun profile => ?_
  refine serviceStops_reply rfl (fun _ => rfl) told_documentError fun documents => ?_
  refine serviceStops_bind ?_ fun _ => serviceStops_pure _
  cases viewer with
  | none => exact serviceStops_pure _
  | some viewer => exact serviceStops_last rfl (fun _ => rfl) fun e => told_followError e fun _ => rfl

theorem stops_unfollow (follower : UserId) (following : Username) :
    ServiceStops route trace noPage (unfollow trace follower following) := by
  refine serviceStops_bind (stops_profileUser other following) fun target => ?_
  refine serviceStops_bind (stops_requestingUser other follower) fun source => ?_
  refine serviceStops_reply rfl (fun _ => rfl) (fun e => told_followError e fun _ => rfl) fun removed => ?_
  exact stops_announce _

/-- The response to a request to follow. -/
def outcomePage (outcome : FollowOutcome) : Option Response :=
  some (.ok outcome.toJson)

theorem stops_follow (follower : UserId) (following : Username) :
    ServiceStops route trace outcomePage (follow trace follower following) := by
  refine serviceStops_bind (stops_profileUser other following) fun target => ?_
  refine serviceStops_bind (stops_requestingUser other follower) fun source => ?_
  refine serviceStops_reply rfl (fun _ => rfl) (fun e => told_followError e fun _ => rfl) fun exists_ => ?_
  split
  · exact serviceStops_pure _
  · refine serviceStops_ask rfl ?_ ?_
    · -- An edge that somebody else has added meanwhile is not a problem.
      intro reply failure fails
      cases reply with
      | ok => cases fails
      | error e =>
        cases fails
        by_cases twice : e = .alreadyExists
        · subst twice
          exact ⟨_, rfl, rfl⟩
        · have told : Told route trace (.insertEdge ⟨source.id, target.id⟩) e.failure
              (onFollowError trace e : Service FollowOutcome) :=
            told_followError e fun same => (twice same).elim
          obtain ⟨problem, stopped, told⟩ := told
          refine ⟨.error problem, ?_, congrArg some told⟩
          cases e with
          | alreadyExists => exact (twice rfl).elim
          | connection message => exact stopped
          | query message => exact stopped
    · intro reply succeeds
      cases reply with
      | ok => exact serviceStops_bind (stops_announce _) fun _ => serviceStops_pure _
      | error e => cases succeeds

end Stops

end Profile

/-! ### Handlers -/

namespace Http

/-- As for services; the session that is left does not depend on the failure. -/
def HandlerEnds {α : Type} (route : Route) (trace : Option TraceId) (page : α → Option Response)
    (c : Call) (next : c.Reply → Program (Except Problem α × Session)) : Prop :=
  ∃ left, ∀ reply failure, c.failure? reply = some failure →
    ∃ result, next reply = .done (result, left) ∧
      shown page result = some (failureResponse route trace c failure)

namespace Handler

variable {α β : Type} {route : Route} {trace : Option TraceId}

/-- What follows on a failing reply keeps the response that the reply leads to. -/
theorem handlerEnds_bind {page : α → Option Response} {shows : β → Option Response} {c : Call}
    {next : c.Reply → Program (Except Problem α × Session)}
    {f : Except Problem α × Session → Program (Except Problem β × Session)}
    (ends : HandlerEnds route trace page c next) (leave : Session → Session)
    (kept : ∀ result left, shown page result ≠ none →
      ∃ after, f (result, left) = .done (after, leave left) ∧ shown shows after = shown page result) :
    HandlerEnds route trace shows c fun reply => (next reply).bind f := by
  obtain ⟨left, ends⟩ := ends
  refine ⟨leave left, ?_⟩
  intro reply failure fails
  obtain ⟨result, stopped, told⟩ := ends reply failure fails
  obtain ⟨after, goes, same⟩ := kept result left (by rw [told]; nofun)
  refine ⟨after, ?_, same.trans told⟩
  dsimp only
  rw [stopped]
  exact goes

structure Stops (route : Route) (trace : Option TraceId) (page : α → Option Response)
    (handler : Handler α) : Prop where
  run : ∀ session, (handler.run.run session).Stops (HandlerEnds route trace page)

theorem stops_pure {page : α → Option Response} (a : α) : Stops route trace page (pure a) :=
  ⟨fun _ => .done _⟩

theorem stops_bind {page : β → Option Response} {handler : Handler α} {f : α → Handler β}
    (first : Stops route trace noPage handler) (later : ∀ a, Stops route trace page (f a)) :
    Stops route trace page (handler >>= f) := by
  refine ⟨fun session => ?_⟩
  rw [run_bind]
  refine Program.stops_bind (first.run session) (fun c next ends => handlerEnds_bind ends id ?_) ?_
  · intro result left decided
    cases result with
    | ok a => exact (decided rfl).elim
    | error problem => exact ⟨.error problem, rfl, rfl⟩
  · rintro ⟨result, left⟩
    cases result with
    | ok a => exact (later a).run left
    | error problem => exact .done _

/-- A result that is as good as a page may be shown as that page. -/
theorem stops_map {page : α → Option Response} {shows : β → Option Response} {handler : Handler α}
    {f : α → β} (stops : Stops route trace page handler) (same : ∀ a, shows (f a) = page a) :
    Stops route trace shows (handler >>= fun a => pure (f a)) := by
  refine ⟨fun session => ?_⟩
  rw [run_bind]
  refine Program.stops_bind (stops.run session) (fun c next ends => handlerEnds_bind ends id ?_) ?_
  · intro result left _
    cases result with
    | ok a => exact ⟨.ok (f a), rfl, same a⟩
    | error problem => exact ⟨.error problem, rfl, rfl⟩
  · rintro ⟨result, left⟩
    cases result with
    | ok a => exact .done _
    | error problem => exact .done _

theorem stops_ofService {page : α → Option Response} {service : Service α}
    (stops : ServiceStops route trace page service) : Stops route trace page (ofService service) := by
  refine ⟨fun session => ?_⟩
  rw [run_ofService]
  refine Program.stops_bind stops ?_ fun _ => .done _
  intro c next ends
  refine ⟨session, ?_⟩
  intro reply failure fails
  obtain ⟨result, stopped, told⟩ := ends reply failure fails
  refine ⟨result, ?_, told⟩
  dsimp only
  rw [stopped]
  rfl

theorem stops_refuse {page : α → Option Response} {message : String}
    (visible : Text.isBlankText message = false) (code : ProblemCode) :
    Stops route trace page (ofService (Service.refuse trace code message)) :=
  stops_ofService (serviceStops_refuse visible code)

theorem stops_change (f : Session → Session) : Stops route trace noPage (change f) :=
  ⟨fun _ => .done _⟩

theorem stops_userId : Stops route trace noPage (userId trace) := by
  refine ⟨fun session => ?_⟩
  by_cases named : ∃ id generation, claimOf session.content = .ok (some (id, generation))
  · obtain ⟨id, generation, named⟩ := named
    rw [run_userId_judged named]
    refine (stops_bind (stops_ofService (Account.stops_sessionGeneration id)) ?_).run session
    intro current
    split
    · exact stops_pure _
    · exact stops_bind (stops_change _) fun _ => stops_pure _
  · obtain ⟨result, ended, _⟩ := run_userId_unnamed
      (fun id generation claim => named ⟨id, generation, claim⟩) trace
    rw [ended]
    exact .done _

theorem stops_requireUserId : Stops route trace noPage (requireUserId trace) := by
  refine stops_bind stops_userId fun found => ?_
  cases found with
  | some id => exact stops_pure _
  | none => exact stops_refuse (loginRequired trace).message_visible _

/-- The session is purged also when its user cannot be moved on. -/
theorem stops_logOut : Stops route trace noPage (logOut trace) := by
  have revokes : Stops route trace noPage (revokeAll trace) := by
    refine stops_bind stops_userId fun found => ?_
    cases found with
    | some id => exact stops_ofService (Account.stops_revokeSessions id)
    | none => exact stops_pure _
  refine ⟨fun session => ?_⟩
  rw [run_logOut]
  refine Program.stops_bind (revokes.run session) (fun c next ends => ?_) fun _ => .done _
  exact handlerEnds_bind ends Session.purge fun result _ _ => ⟨result, rfl, rfl⟩

theorem stops_startSession (id : UserId) : Stops route trace noPage (startSession trace id) := by
  refine stops_bind (stops_ofService (Account.stops_sessionGeneration id)) fun current => ?_
  cases current with
  | some generation =>
    exact stops_bind (stops_change _) fun _ => stops_bind (stops_change _) fun _ => stops_change _
  | none => exact stops_refuse Account.invalidLogin_visible _

theorem stops_admit (credentials : LoginCredentials) (response : Response) :
    Stops route trace some (do
      let id ← ofService (Account.authenticate trace credentials)
      startSession trace id
      pure response) :=
  stops_bind (stops_ofService (Account.stops_authenticate credentials)) fun id =>
    stops_bind (stops_startSession id) fun _ => stops_pure _

theorem stops_register (fresh : UserId) (form : List (String × String)) :
    Stops .register trace some (register trace fresh form) := by
  unfold register
  split
  · exact stops_ofService (serviceStops_refuseWith (by decide) _ _)
  · rename_i registration _
    refine stops_bind (stops_ofService (Account.stops_register fresh registration)) fun _ => ?_
    exact stops_admit registration.credentials _

theorem stops_login (next : String) (form : List (String × String)) :
    Stops route trace some (login trace next form) := by
  unfold login
  dsimp only
  split
  · exact stops_ofService (serviceStops_refuseWith (by decide) _ _)
  · split
    · rename_i e _
      exact stops_refuse (refusedLogin trace e).message_visible _
    · exact stops_admit _ _

theorem stops_username (segment : String) : Stops route trace noPage (username trace segment) := by
  unfold username
  split
  · exact stops_pure _
  · exact stops_ofService (Profile.stops_refuseUnknown segment)

theorem stops_profile (other : route ≠ .register) (segment : String) :
    Stops route trace some (profile trace segment) := by
  refine stops_bind (stops_username segment) fun name => ?_
  refine stops_bind stops_userId fun viewer => ?_
  exact stops_bind (stops_ofService (Profile.stops_page other name viewer)) fun _ => stops_pure _

theorem stops_follow (other : route ≠ .register) (segment : String) :
    Stops route trace some (follow trace segment) := by
  refine stops_bind stops_requireUserId fun follower => ?_
  refine stops_bind (stops_username segment) fun name => ?_
  exact stops_map (stops_ofService (Profile.stops_follow other follower name)) fun _ => rfl

theorem stops_unfollow (other : route ≠ .register) (segment : String) :
    Stops route trace some (unfollow trace segment) := by
  refine stops_bind stops_requireUserId fun follower => ?_
  refine stops_bind (stops_username segment) fun name => ?_
  exact stops_bind (stops_ofService (Profile.stops_unfollow other follower name)) fun _ =>
    stops_pure _

theorem stops_handle (context : Context) (request : Request) (route : Route) :
    Stops route (some context.trace) some (App.handle context request route) := by
  cases route with
  | registrationForm => exact stops_pure _
  | register =>
    unfold App.handle
    cases request.form registrationFields with
    | error fault => exact stops_pure _
    | ok form => exact stops_register context.freshId form
  | loginForm =>
    unfold App.handle
    cases request.next with
    | error fault => exact stops_pure _
    | ok next => exact stops_pure _
  | login =>
    unfold App.handle
    cases request.next with
    | error fault => exact stops_pure _
    | ok next =>
      dsimp only
      cases request.form loginFields with
      | error fault => exact stops_pure _
      | ok form => exact stops_login next form
  | logout => exact stops_bind stops_logOut fun _ => stops_pure _
  | profile segment => exact stops_profile (by simp) segment
  | follow segment => exact stops_follow (by simp) segment
  | unfollow segment => exact stops_unfollow (by simp) segment
  | ready => exact stops_pure _
  | live => exact stops_pure _
  | apiDocument => exact stops_pure _

end Handler

/-! ### Visits -/

variable {visit : Visit} {route : Route}

/-- What is answered after a failure of a call: the table says what, the session which cookie. -/
def Concluded (context : Context) (route : Route) (c : Call) (ending : Failure → Response) : Prop :=
  ∃ session, ending = fun failure =>
    App.finish context session (failureResponse route (some context.trace) c failure)

theorem stops_routed (found : visit.route? = some route) :
    visit.program.Stops (Program.Decides (Concluded visit.context route)) := by
  rw [program_eq found]
  have handled := Handler.stops_handle visit.context visit.request route
  refine Program.stops_bind (handled.run _) ?_ fun _ => .done _
  rintro c next ⟨left, ends⟩
  -- The session left by the handler is fixed before the failure is known, and so is the cookie.
  refine ⟨_, ⟨left, rfl⟩, ?_⟩
  intro reply failure fails
  obtain ⟨result, stopped, told⟩ := ends reply failure fails
  dsimp only
  rw [stopped]
  cases result with
  | ok response =>
    cases told
    rfl
  | error problem =>
    rw [← Option.some.inj told]
    rfl

theorem program_unrouted (unknown : visit.route? = none) :
    visit.program = .done (App.finish visit.context (.start visit.request.session) .notFound) := by
  unfold Visit.route? at unknown
  unfold Visit.program App.respond
  rw [unknown]
  rfl

end Http

end Folio
