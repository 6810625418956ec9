import Folio.Proofs.Http.Entry
import Folio.Proofs.Program.Calls

/-!
# Visits call by call

What a visit has asked for at each point of its run. A page that needs to know who visits checks the
session first; a login reads the generation of its user last; a logout moves the user on whom its
check accepts.
-/

namespace Folio

open Program

/-- What a program comes to when it is replied to as in a list of exchanges. -/
def Program.conclude? {α : Type} : Program α → List Exchange → Option α
  | done a, _ => some a
  | crash _, _ => none
  | call _ _, [] => none
  | call c next, e :: rest =>
    if same : e.call = c then conclude? (next (same ▸ e.reply)) rest else none

theorem Program.conclude_call {α : Type} (c : Call) (next : c.Reply → Program α) (reply : c.Reply)
    (rest : List Exchange) :
    (call c next).conclude? (⟨c, reply⟩ :: rest) = (next reply).conclude? rest := by
  simp [conclude?]

namespace Http

variable {α β : Type} {visit : Visit} {hasher : Password.Hasher}

/-! ### The check of a session -/

namespace Visit

def check (visit : Visit) : Program (Except Problem (Option UserId) × Session) :=
  (Handler.userId visit.trace).run.run (.start visit.request.session)

/-- What the check of a visit's session answered, after the exchanges that the visit made. -/
def verdict? (visit : Visit) (own : List Exchange) : Option (Except Problem (Option UserId)) :=
  (visit.check.conclude? own).map (·.1)

end Visit

/-- The routes whose handlers check the session before they do anything else. -/
def Route.checks : Route → Bool
  | logout | follow _ | unfollow _ => true
  | profile segment => (Username.verbatim? segment).isSome
  | _ => false

namespace Handler

/-- A handler begins with the check of its session. -/
def Checks (trace : Option TraceId) (handler : Handler α) : Prop :=
  ∀ session, ∃ rest, handler.run.run session = ((userId trace).run.run session).bind rest

theorem checks_userId (trace : Option TraceId) : Checks trace (userId trace) :=
  fun _ => ⟨.done, (Program.bind_done _).symm⟩

theorem checks_bind {trace : Option TraceId} {handler : Handler α} (checks : Checks trace handler)
    (f : α → Handler β) : Checks trace (handler >>= f) := by
  intro session
  obtain ⟨rest, same⟩ := checks session
  exact ⟨_, by rw [run_bind, same, Program.bind_assoc]⟩

/-- A check reads the generation of the user whom the session names, and compares. -/
theorem run_userId_named {session : Session} {id : UserId} {generation : Generation}
    (named : claimOf session.content = .ok (some (id, generation))) (trace : Option TraceId) :
    ∃ next, (userId trace).run.run session = .call (.readGeneration id) next ∧
      ∀ current, next (.ok current) =
        if current = some generation then .done (.ok (some id), session)
        else .done (.ok none, session.purge) := by
  show ∃ next, session.check (Account.loginService trace) trace = _ ∧ _
  unfold Session.check
  rw [named]
  exact ⟨_, rfl, fun _ => rfl⟩

theorem checks_requireUserId (trace : Option TraceId) : Checks trace (requireUserId trace) :=
  checks_bind (checks_userId trace) _

theorem checks_profile (trace : Option TraceId) {segment : String} {name : Username}
    (read : Username.verbatim? segment = some name) : Checks trace (profile trace segment) := by
  unfold profile username
  rw [read]
  dsimp only
  rw [pure_bind]
  exact checks_bind (checks_userId trace) _

theorem checks_handle (context : Context) (request : Request) {route : Route}
    (checks : route.checks = true) :
    Checks (some context.trace) (App.handle context request route) := by
  cases route with
  | logout => exact fun session => ⟨_, run_logout _ session⟩
  | follow segment => exact checks_bind (checks_requireUserId _) _
  | unfollow segment => exact checks_bind (checks_requireUserId _) _
  | profile segment =>
    unfold Route.checks at checks
    obtain ⟨name, read⟩ := Option.isSome_iff_exists.mp checks
    exact checks_profile _ read
  | registrationForm | register | loginForm | login | ready | live | apiDocument => cases checks

end Handler

/-- A visit to such a route goes on with what its check answers. -/
theorem program_checks {route : Route} (found : visit.route? = some route)
    (checks : route.checks = true) : ∃ rest, visit.program = visit.check.bind rest := by
  obtain ⟨rest, same⟩ := Handler.checks_handle visit.context visit.request checks
    (.start visit.request.session)
  exact ⟨_, by rw [program_eq found, same, Program.bind_assoc]; rfl⟩

theorem check_named {id : UserId} {generation : Generation}
    (named : claimOf visit.content = .ok (some (id, generation))) :
    ∃ next, visit.check = .call (.readGeneration id) next ∧
      ∀ current, next (.ok current) =
        if current = some generation then .done (.ok (some id), .start visit.request.session)
        else .done (.ok none, (Session.start visit.request.session).purge) :=
  Handler.run_userId_named named visit.trace

theorem verdict_named {id : UserId} {generation : Generation}
    (named : claimOf visit.content = .ok (some (id, generation))) (current : Option Generation)
    (rest : List Exchange) :
    visit.verdict? (⟨.readGeneration id, .ok current⟩ :: rest) =
      some (.ok (if current = some generation then some id else none)) := by
  obtain ⟨next, reads, compares⟩ := check_named named
  rw [Visit.verdict?, reads, Program.conclude_call, compares]
  split
  · rfl
  · rfl

/-! ### Points of a visit -/

def Replied (hasher : Password.Hasher) (visit : Visit) (e : Exchange) : Prop :=
  ∃ w, (World.answer hasher visit.salt e.call w).1 = e.reply

theorem throughout_checks {route : Route} {id : UserId} {generation : Generation}
    (found : visit.route? = some route) (checks : route.checks = true)
    (named : claimOf visit.content = .ok (some (id, generation))) :
    visit.program.Throughout (Replied hasher visit) fun own _ =>
      own = [] ∨ ∃ reply rest, own = ⟨.readGeneration id, reply⟩ :: rest := by
  obtain ⟨rest, same⟩ := program_checks found checks
  obtain ⟨next, reads, _⟩ := check_named named
  rw [same, reads]
  refine .call (Or.inl rfl) fun reply _ => ?_
  exact throughout_of_forall _ fun own _ => Or.inr ⟨reply, own, rfl⟩

/-- A handler that has ended left the session as it came, or opened it for the user whose generation
it read at last. -/
def Opens (session : Session) (own : List Exchange)
    (outcome : Option (Outcome (Except Problem Response × Session))) : Prop :=
  ∀ result left, outcome = some (.finished (result, left)) → left = session ∨
    ∃ (before : List Exchange) (id : UserId) (generation : Generation),
      own = before ++ [⟨.readGeneration id, .ok (some generation)⟩] ∧
      (∀ e ∈ before, e.call.isAuthentication = true) ∧
      left = Handler.entered id generation session

theorem throughout_kept {possible : Exchange → Prop} (own : List Exchange)
    (result : Except Problem Response) (session : Session) :
    (Program.done (result, session)).Throughout possible fun rest outcome =>
      Opens session (own ++ rest) outcome := by
  refine .done ?_
  intro _ _ ended
  cases ended
  exact Or.inl rfl

namespace Handler

variable {possible : Exchange → Prop} {allowed : Call → Prop}

theorem throughout_ofService {service : Service α} (makes : service.run.Makes allowed)
    (session : Session) :
    ((ofService service).run.run session).Throughout possible fun own outcome =>
      (∀ e ∈ own, allowed e.call) ∧
        ∀ result left, outcome = some (.finished (result, left)) → left = session := by
  rw [run_ofService]
  refine throughout_bind (throughout_of_makes makes) ?_ ?_ ?_
  · exact fun own made => ⟨made, fun _ _ ended => by cases ended⟩
  · exact fun own cause made => ⟨made, fun _ _ ended => by cases ended⟩
  · intro own result made
    refine .done ⟨by simpa using made, ?_⟩
    intro _ _ ended
    cases ended
    rfl

theorem run_startSession (trace : Option TraceId) (id : UserId) (session : Session) :
    ∃ next, (startSession trace id).run.run session = .call (.readGeneration id) next ∧
      (∀ generation, next (.ok (some generation)) =
        .done (.ok (), entered id generation session)) ∧
      next (.ok none) = .done (.error (missingGeneration trace), session) := by
  unfold startSession
  rw [run_bind]
  refine ⟨_, rfl, fun _ => rfl, ?_⟩
  exact run_refuse (Problem.new_of_visible trace .unauthorized Account.invalidLogin_visible) session

theorem throughout_startSession (trace : Option TraceId) (id : UserId) (response : Response)
    (session : Session) :
    ((startSession trace id >>= fun _ => pure response : Handler Response).run.run
      session).Throughout (Replied hasher visit) fun own outcome =>
        ∀ result left, outcome = some (.finished (result, left)) → left = session ∨
          ∃ generation, own = [⟨.readGeneration id, .ok (some generation)⟩] ∧
            left = entered id generation session := by
  obtain ⟨next, reads, opens, refuses⟩ := run_startSession trace id session
  rw [run_bind, reads]
  refine .call (fun _ _ ended => by cases ended) ?_
  rintro reply ⟨w, answered⟩
  dsimp only [World.answer] at answered
  subst answered
  cases w.users.generation? id with
  | some generation =>
    rw [opens]
    refine .done ?_
    intro result left ended
    cases ended
    exact Or.inr ⟨generation, rfl, rfl⟩
  | none =>
    rw [refuses]
    refine .done ?_
    intro result left ended
    cases ended
    exact Or.inl rfl

theorem throughout_admit (trace : Option TraceId) (credentials : LoginCredentials)
    (response : Response) (session : Session) :
    ((do
      let id ← ofService (Account.authenticate trace credentials)
      startSession trace id
      pure response : Handler Response).run.run session).Throughout (Replied hasher visit)
        (Opens session) := by
  rw [run_bind]
  refine throughout_bind
    (throughout_ofService (Account.makes_authenticate trace credentials) session) ?_ ?_ ?_
  · exact fun _ _ _ _ ended => by cases ended
  · exact fun _ _ _ _ _ ended => by cases ended
  · rintro own ⟨result, left⟩ ⟨made, kept⟩
    obtain rfl := kept _ _ rfl
    cases result with
    | error problem => exact throughout_kept own _ left
    | ok id =>
      refine throughout_mono (throughout_startSession trace id response left) ?_
      intro rest outcome opened result left ended
      rcases opened result left ended with kept | ⟨generation, rfl, entered⟩
      · exact Or.inl kept
      · exact Or.inr ⟨own, id, generation, rfl, made, entered⟩

theorem throughout_refused {service : Service Response} (makes : service.run.Makes fun _ => True)
    (session : Session) :
    ((ofService service).run.run session).Throughout possible (Opens session) := by
  refine throughout_mono (throughout_ofService makes session) ?_
  intro _ _ kept result left ended
  exact Or.inl (kept.2 result left ended)

theorem throughout_login (trace : Option TraceId) (next : String) (form : List (String × String))
    (session : Session) :
    ((login trace next form).run.run session).Throughout (Replied hasher visit)
      (Opens session) := by
  unfold login
  dsimp only
  split
  · exact throughout_refused (Service.makes_refuseWith _ _ _ _) session
  · split
    · exact throughout_refused (Service.makes_refuse _ _ _) session
    · exact throughout_admit trace _ _ session

end Handler

/-- A login that sets a session has authenticated and then read the generation that it sets. -/
theorem throughout_entry (route : visit.route? = some .login) :
    visit.program.Throughout (Replied hasher visit) fun own outcome =>
      ∀ response content, outcome = some (.finished response) →
        response.session? = some content →
        ∃ (before : List Exchange) (id : UserId) (generation : Generation),
          own = before ++ [⟨.readGeneration id, .ok (some generation)⟩] ∧
          (∀ e ∈ before, e.call.isAuthentication = true) ∧
          content = enteredContent id generation visit.content := by
  rw [program_eq route]
  have handled : ((App.handle visit.context visit.request .login).run.run
      (.start visit.request.session)).Throughout (Replied hasher visit)
        (Opens (.start visit.request.session)) := by
    unfold App.handle
    cases visit.request.next with
    | error fault => exact throughout_kept [] _ _
    | ok next =>
      dsimp only
      cases visit.request.form loginFields with
      | error fault => exact throughout_kept [] _ _
      | ok form => exact Handler.throughout_login _ next form _
  refine throughout_bind handled (fun _ _ _ _ ended => by cases ended)
    (fun _ _ _ _ _ ended => by cases ended) ?_
  rintro own ⟨result, left⟩ opened
  refine .done ?_
  intro response content ended sets
  cases ended
  rw [List.append_nil]
  rcases opened result left rfl with rfl | ⟨before, id, generation, same, made, rfl⟩
  · rw [answered_start_session] at sets
    cases sets
  · rw [answered_entered_session] at sets
    exact ⟨before, id, generation, same, made, (Option.some.inj sets).symm⟩

/-- A logout whose check accepts a user moves that user on once; any other logout moves nobody. -/
theorem throughout_logout (route : visit.route? = some .logout) :
    visit.program.Throughout (Replied hasher visit) fun own outcome => outcome ≠ none → ∀ id,
      (visit.verdict? own = some (.ok (some id)) →
        own.countP (fun e => e.call = .advanceGeneration id) = 1) ∧
      (visit.verdict? own ≠ some (.ok (some id)) →
        own.countP (fun e => e.call = .advanceGeneration id) = 0) := by
  have handled := Handler.run_logout visit.trace (.start visit.request.session)
  have program : visit.program = visit.check.bind fun result =>
      (Handler.leave visit.trace result).bind visit.reply := by
    rw [program_eq route]
    show ((Handler.logout visit.trace).run.run _).bind _ = _
    rw [handled, Program.bind_assoc]
    rfl
  rw [program]
  unfold Visit.verdict?
  by_cases named : ∃ id generation, claimOf visit.content = .ok (some (id, generation))
  · obtain ⟨id, generation, named⟩ := named
    obtain ⟨next, reads, compares⟩ := check_named named
    rw [reads]
    refine .call (fun ended => (ended rfl).elim) ?_
    rintro reply ⟨w, answered⟩
    dsimp only [World.answer] at answered
    subst answered
    simp only [Program.conclude_call, compares]
    split
    · refine .call (fun ended => (ended rfl).elim) ?_
      rintro reply ⟨w, answered⟩
      dsimp only [World.answer] at answered
      subst answered
      refine .done ?_
      intro _ other
      by_cases same : id = other
      · simp [Program.conclude?, same]
      · simp [Program.conclude?, same]
    · refine .done ?_
      intro _ other
      simp [Program.conclude?]
  · have unnamed : ∀ id generation, claimOf visit.content ≠ .ok (some (id, generation)) :=
      fun id generation same => named ⟨id, generation, same⟩
    obtain ⟨result, ends, refused⟩ := Handler.run_userId_unnamed unnamed visit.trace
    have check : visit.check = .done (result, .start visit.request.session) := ends
    rw [check]
    match result with
    | .ok (some id) => exact (refused id rfl).elim
    | .ok none =>
      refine .done ?_
      intro _ other
      simp [Program.conclude?]
    | .error problem =>
      refine .done ?_
      intro _ other
      simp [Program.conclude?]

end Http

end Folio
