import Folio.Http.App
import Folio.Proofs.Program.Interleaving

/-!
# Which calls are made

Bounds on the calls of each service and each page, whatever they are replied. Profiles leave
accounts alone, and nobody but a new user is created.
-/

namespace Folio

open Program

variable {α : Type} {allowed : Call → Prop}

/-- The calls that showing, following and unfollowing come down to. -/
def Call.isProfile : Call → Bool
  | findUser _ | findUsername _ | edgeExists _ | insertEdge _ | deleteEdge _ | listDocuments _
  | publish _ => true
  | _ => false

/-- The calls that authenticating comes down to. -/
def Call.isAuthentication : Call → Bool
  | findCredentials _ | verifyPassword _ _ => true
  | _ => false

def Call.creates : Call → Bool
  | createUser _ _ => true
  | _ => false

theorem Call.creates_of_isProfile {c : Call} (profile : c.isProfile = true) :
    c.creates = false := by
  cases c with
  | createUser user hash => cases profile
  | _ => rfl

theorem Call.creates_of_isAuthentication {c : Call} (authentication : c.isAuthentication = true) :
    c.creates = false := by
  cases c with
  | createUser user hash => cases authentication
  | _ => rfl

/-! ### Profiles -/

namespace Profile

theorem makes_onUserError (trace : Option TraceId) (e : UserStoreError) :
    (onUserError trace e : Service α).run.Makes allowed := by
  cases e with
  | connection message => exact Service.makes_refuse _ _ _
  | query message => exact Service.makes_refuse _ _ _
  | usernameTaken username => exact Service.makes_refuse _ _ _

theorem makes_onFollowError (trace : Option TraceId) (e : FollowStoreError) :
    (onFollowError trace e : Service α).run.Makes allowed := by
  cases e with
  | connection message => exact Service.makes_refuse _ _ _
  | query message => exact Service.makes_refuse _ _ _
  | alreadyExists => exact Service.makes_refuse _ _ _

theorem makes_onDocumentError (trace : Option TraceId) (e : DocumentStoreError) :
    (onDocumentError trace e : Service α).run.Makes allowed := by
  cases e with
  | connection message => exact Service.makes_refuse _ _ _
  | query message => exact Service.makes_refuse _ _ _

theorem makes_profileUser (trace : Option TraceId) (username : Username) :
    (profileUser trace username).run.Makes (·.isProfile) := by
  refine Service.makes_bind (Service.makes_ask rfl) fun reply => ?_
  refine Service.makes_bind (Service.makes_orElse (makes_onUserError trace)) fun found => ?_
  cases found with
  | some user => exact .done _
  | none => exact Service.makes_refuse _ _ _

theorem makes_requestingUser (trace : Option TraceId) (id : UserId) :
    (requestingUser trace id).run.Makes (·.isProfile) := by
  refine Service.makes_bind (Service.makes_ask rfl) fun reply => ?_
  refine Service.makes_bind (Service.makes_orElse (makes_onUserError trace)) fun found => ?_
  cases found with
  | some user => exact .done _
  | none => exact Service.makes_refuse _ _ _

theorem makes_announce (event : FollowEvent) : (announce event).run.Makes (·.isProfile) :=
  Service.makes_bind (Service.makes_ask rfl) fun _ => .done _

theorem makes_follow (trace : Option TraceId) (follower : UserId) (following : Username) :
    (follow trace follower following).run.Makes (·.isProfile) := by
  refine Service.makes_bind (makes_profileUser trace following) fun target => ?_
  refine Service.makes_bind (makes_requestingUser trace follower) fun source => ?_
  refine Service.makes_bind (Service.makes_ask rfl) fun seen => ?_
  refine Service.makes_bind (Service.makes_orElse (makes_onFollowError trace)) fun exists_ => ?_
  split
  · exact .done _
  · refine Service.makes_bind (Service.makes_ask rfl) fun inserted => ?_
    split
    · exact Service.makes_bind (makes_announce _) fun _ => .done _
    · exact .done _
    · exact makes_onFollowError trace _

theorem makes_unfollow (trace : Option TraceId) (follower : UserId) (following : Username) :
    (unfollow trace follower following).run.Makes (·.isProfile) := by
  refine Service.makes_bind (makes_profileUser trace following) fun target => ?_
  refine Service.makes_bind (makes_requestingUser trace follower) fun source => ?_
  refine Service.makes_bind (Service.makes_ask rfl) fun removed => ?_
  refine Service.makes_bind (Service.makes_orElse (makes_onFollowError trace)) fun _ => ?_
  exact makes_announce _

theorem makes_page (trace : Option TraceId) (username : Username) (viewer : Option UserId) :
    (page trace username viewer).run.Makes (·.isProfile) := by
  refine Service.makes_bind (makes_profileUser trace username) fun profile => ?_
  refine Service.makes_bind (Service.makes_ask rfl) fun listed => ?_
  refine Service.makes_bind (Service.makes_orElse (makes_onDocumentError trace)) fun _ => ?_
  refine Service.makes_bind ?_ fun _ => .done _
  cases viewer with
  | none => exact .done _
  | some viewer =>
    refine Service.makes_bind (Service.makes_ask rfl) fun reply => ?_
    exact Service.makes_orElse (makes_onFollowError trace)

end Profile

/-! ### Accounts -/

namespace Account

theorem makes_onUserError (trace : Option TraceId) (e : UserStoreError) :
    (onUserError trace e : Service α).run.Makes allowed := by
  cases e with
  | connection message => exact Service.makes_refuse _ _ _
  | query message => exact Service.makes_refuse _ _ _
  | usernameTaken username => exact Service.makes_refuseWith _ _ _ _

theorem makes_onHasherError (trace : Option TraceId) (e : HasherError) :
    (onHasherError trace e : Service α).run.Makes allowed :=
  Service.makes_refuse _ _ _

theorem makes_authenticate (trace : Option TraceId) (credentials : LoginCredentials) :
    (authenticate trace credentials).run.Makes (·.isAuthentication) := by
  unfold authenticate
  split
  · exact Service.makes_refuseWith _ _ _ _
  · refine Service.makes_bind (Service.makes_ask rfl) fun reply => ?_
    refine Service.makes_bind (Service.makes_orElse (makes_onUserError trace)) fun stored => ?_
    cases stored with
    | none => exact Service.makes_refuseWith _ _ _ _
    | some stored =>
      refine Service.makes_bind (Service.makes_ask rfl) fun reply => ?_
      refine Service.makes_bind (Service.makes_orElse (makes_onHasherError trace)) ?_
      intro verified
      split
      · exact .done _
      · exact Service.makes_refuseWith _ _ _ _

theorem makes_sessionGeneration {id : UserId} (reads : allowed (.readGeneration id))
    (trace : Option TraceId) : (sessionGeneration trace id).run.Makes allowed :=
  Service.makes_bind (Service.makes_ask reads) fun _ =>
    Service.makes_orElse (makes_onUserError trace)

theorem makes_revokeSessions {id : UserId} (advances : allowed (.advanceGeneration id))
    (trace : Option TraceId) : (revokeSessions trace id).run.Makes allowed :=
  Service.makes_bind (Service.makes_ask advances) fun _ =>
    Service.makes_orElse (makes_onUserError trace)

/-- A registration creates no user but the one it is for. -/
theorem makes_register (trace : Option TraceId) (fresh : UserId) (registration : Registration) :
    (register trace fresh registration).run.Makes fun c =>
      c = .findUsername registration.username ∨ c = .hashPassword registration.password ∨
        ∃ hash, c = .createUser ⟨fresh, registration.username⟩ hash := by
  refine Service.makes_bind (Service.makes_ask (Or.inl rfl)) fun reply => ?_
  refine Service.makes_bind (Service.makes_orElse (makes_onUserError trace)) fun existing => ?_
  split
  · exact Service.makes_refuseWith _ _ _ _
  · refine Service.makes_bind (Service.makes_ask (Or.inr (Or.inl rfl))) fun reply => ?_
    refine Service.makes_bind (Service.makes_orElse (makes_onHasherError trace)) fun hash => ?_
    refine Service.makes_bind (Service.makes_ask (Or.inr (Or.inr ⟨hash, rfl⟩))) fun reply => ?_
    exact Service.makes_bind (Service.makes_orElse (makes_onUserError trace)) fun _ => .done _

end Account

/-! ### Pages -/

namespace Http.Handler

variable {β : Type}

/-- Every call of a handler is an allowed one, whatever its session and the replies are. -/
structure Makes (allowed : Call → Prop) (handler : Handler α) : Prop where
  run : ∀ session, (handler.run.run session).Makes allowed

theorem makes_pure (a : α) : (pure a : Handler α).Makes allowed :=
  ⟨fun _ => .done _⟩

theorem makes_bind {handler : Handler α} {f : α → Handler β} (first : handler.Makes allowed)
    (later : ∀ a, (f a).Makes allowed) : (handler >>= f).Makes allowed := by
  refine ⟨fun session => ?_⟩
  rw [run_bind]
  refine Program.makes_bind (first.run session) ?_
  rintro ⟨result, session⟩
  cases result with
  | ok a => exact (later a).run session
  | error problem => exact .done _

theorem makes_ofService {service : Service α} (makes : service.run.Makes allowed) :
    (ofService service).Makes allowed :=
  ⟨fun _ => Program.makes_bind makes fun _ => .done _⟩

theorem makes_change (f : Session → Session) : (change f).Makes allowed :=
  ⟨fun _ => .done _⟩

theorem makes_userId (reads : ∀ id, allowed (.readGeneration id)) (trace : Option TraceId) :
    (userId trace).Makes allowed := by
  refine ⟨fun session => ?_⟩
  show (session.check (Account.loginService trace) trace).Makes allowed
  unfold Session.check
  split
  · exact .done _
  · exact .done _
  · refine Program.makes_bind (Account.makes_sessionGeneration (reads _) trace) ?_
    intro current
    split
    · exact .done _
    · split
      · exact .done _
      · exact .done _

theorem makes_requireUserId (reads : ∀ id, allowed (.readGeneration id)) (trace : Option TraceId) :
    (requireUserId trace).Makes allowed := by
  refine makes_bind (makes_userId reads trace) fun id => ?_
  split
  · exact makes_pure _
  · exact makes_ofService (Service.makes_refuse _ _ _)

theorem makes_logOut (reads : ∀ id, allowed (.readGeneration id))
    (advances : ∀ id, allowed (.advanceGeneration id)) (trace : Option TraceId) :
    (logOut trace).Makes allowed := by
  have revokes : (revokeAll trace).Makes allowed := by
    refine makes_bind (makes_userId reads trace) fun id => ?_
    split
    · exact makes_ofService (Account.makes_revokeSessions (advances _) trace)
    · exact makes_pure _
  refine ⟨fun session => ?_⟩
  rw [run_logOut]
  exact Program.makes_bind (revokes.run session) fun _ => .done _

theorem makes_startSession (reads : ∀ id, allowed (.readGeneration id)) (trace : Option TraceId)
    (id : UserId) : (startSession trace id).Makes allowed := by
  refine makes_bind (makes_ofService (Account.makes_sessionGeneration (reads id) trace)) ?_
  intro current
  split
  · refine makes_bind (makes_change _) fun _ => ?_
    exact makes_bind (makes_change _) fun _ => makes_change _
  · exact makes_ofService (Service.makes_refuse _ _ _)

theorem makes_username (trace : Option TraceId) (segment : String) :
    (username trace segment).Makes allowed := by
  unfold username
  split
  · exact makes_pure _
  · exact makes_ofService (Service.makes_refuse _ _ _)

theorem makes_login (trace : Option TraceId) (next : String) (form : List (String × String)) :
    (login trace next form).Makes fun c => c.creates = false := by
  unfold login
  dsimp only
  split
  · exact makes_ofService (Service.makes_refuseWith _ _ _ _)
  · split
    · exact makes_ofService (Service.makes_refuse _ _ _)
    · refine makes_bind (makes_ofService ?_) fun id => ?_
      · exact makes_mono (fun _ => Call.creates_of_isAuthentication)
          (Account.makes_authenticate trace _)
      · exact makes_bind (makes_startSession (fun _ => rfl) trace id) fun _ => makes_pure _

theorem makes_ofProfile {service : Service α} (makes : service.run.Makes (·.isProfile)) :
    (ofService service).Makes fun c => c.creates = false :=
  makes_ofService (makes_mono (fun _ => Call.creates_of_isProfile) makes)

theorem makes_logout (trace : Option TraceId) :
    (logout trace).Makes fun c => c.creates = false :=
  makes_bind (makes_logOut (fun _ => rfl) (fun _ => rfl) trace) fun _ => makes_pure _

theorem makes_profile (trace : Option TraceId) (segment : String) :
    (profile trace segment).Makes fun c => c.creates = false := by
  refine makes_bind (makes_username trace segment) fun name => ?_
  refine makes_bind (makes_userId (fun _ => rfl) trace) fun viewer => ?_
  exact makes_bind (makes_ofProfile (Profile.makes_page trace name viewer)) fun _ => makes_pure _

theorem makes_follow (trace : Option TraceId) (segment : String) :
    (follow trace segment).Makes fun c => c.creates = false := by
  refine makes_bind (makes_requireUserId (fun _ => rfl) trace) fun follower => ?_
  refine makes_bind (makes_username trace segment) fun name => ?_
  exact makes_bind (makes_ofProfile (Profile.makes_follow trace follower name)) fun _ =>
    makes_pure _

theorem makes_unfollow (trace : Option TraceId) (segment : String) :
    (unfollow trace segment).Makes fun c => c.creates = false := by
  refine makes_bind (makes_requireUserId (fun _ => rfl) trace) fun follower => ?_
  refine makes_bind (makes_username trace segment) fun name => ?_
  exact makes_bind (makes_ofProfile (Profile.makes_unfollow trace follower name)) fun _ =>
    makes_pure _

/-- Nobody is created but by registering. -/
theorem makes_handle (context : Context) (request : Request) {route : Route}
    (other : route ≠ .register) :
    (App.handle context request route).Makes fun c => c.creates = false := by
  cases route with
  | register => exact (other rfl).elim
  | registrationForm | ready | live | apiDocument => exact makes_pure _
  | loginForm =>
    unfold App.handle
    cases request.next with
    | error fault => exact makes_pure _
    | ok next => exact makes_pure _
  | login =>
    unfold App.handle
    cases request.next with
    | error fault => exact makes_pure _
    | ok next =>
      dsimp only
      cases request.form loginFields with
      | error fault => exact makes_pure _
      | ok form => exact makes_login _ next form
  | logout => exact makes_logout _
  | profile segment => exact makes_profile _ segment
  | follow segment => exact makes_follow _ segment
  | unfollow segment => exact makes_unfollow _ segment

end Http.Handler

theorem Http.App.makes_respond (context : Context) {request : Request}
    (other : Route.find? request.method request.routePath ≠ some .register) :
    (App.respond context request).Makes fun c => c.creates = false := by
  unfold App.respond
  cases found : Route.find? request.method request.routePath with
  | none => exact .done _
  | some route =>
    refine Program.makes_bind ((Handler.makes_handle context request ?_).run _) ?_
    · rintro rfl
      exact other found
    · rintro ⟨result, session⟩
      cases result with
      | ok response => exact .done _
      | error problem => exact .done _

end Folio
