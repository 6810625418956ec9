import Folio.Http.Session

/-!
# Effects of programs

What a run comes to for those who look at it from outside: how it ended, the events it announced
and the state it left. The effect of a sequence is put together from the effects of its parts, for
programs, services and handlers alike.
-/

namespace Folio

/-- The event that an exchange announces. -/
def Exchange.event? : Exchange → Option FollowEvent
  | ⟨.publish event, _⟩ => some event
  | _ => none

namespace Program

variable {α β σ : Type}

/-- How a run ended, the events it announced and the state it left. -/
structure Effect (α σ : Type) where
  outcome : Outcome α
  events : List FollowEvent
  state : σ

def Run.events (run : Run α σ) : List FollowEvent :=
  run.exchanges.filterMap Exchange.event?

/-- A run as it is seen from outside. -/
def Run.effect (run : Run α σ) : Effect α σ :=
  ⟨run.outcome, run.events, run.state⟩

theorem Run.effect_eq {run : Run α σ} {outcome : Outcome α} {events : List FollowEvent} {s : σ}
    (same : run.effect = ⟨outcome, events, s⟩) :
    run.outcome = outcome ∧ run.events = events ∧ run.state = s := by
  unfold Run.effect at same
  injection same with first second third
  exact ⟨first, second, third⟩

namespace Effect

def quiet (a : α) (s : σ) : Effect α σ :=
  ⟨.finished a, [], s⟩

/-- Goes on after a result; after a crash nothing follows. -/
def andThen (e : Effect α σ) (next : α → σ → Effect β σ) : Effect β σ :=
  match e.outcome with
  | .finished a =>
    let rest := next a e.state
    { rest with events := e.events ++ rest.events }
  | .crashed cause => ⟨.crashed cause, e.events, e.state⟩

theorem quiet_andThen (a : α) (s : σ) (next : α → σ → Effect β σ) :
    (quiet a s).andThen next = next a s := rfl

/-- Events that were announced stand before those that follow. -/
theorem finished_andThen (a : α) (events : List FollowEvent) (s : σ)
    (next : α → σ → Effect β σ) :
    (⟨.finished a, events, s⟩ : Effect α σ).andThen next =
      ⟨(next a s).outcome, events ++ (next a s).events, (next a s).state⟩ := rfl

end Effect

/-- The effect of a program whose calls are replied to by `answer`. -/
def effect (answer : (c : Call) → σ → c.Reply × σ) (p : Program α) (s : σ) : Effect α σ :=
  (p.run answer s).effect

theorem effect_bind (answer : (c : Call) → σ → c.Reply × σ) (p : Program α) (f : α → Program β)
    (s : σ) :
    (p.bind f).effect answer s = (p.effect answer s).andThen fun a s => (f a).effect answer s := by
  unfold effect
  rw [run_bind]
  unfold Effect.andThen Run.effect Run.events
  cases (p.run answer s).outcome with
  | finished a => simp only [List.filterMap_append]
  | crashed cause => rfl

end Program

theorem Problem.new_of_visible (trace : Option TraceId) (code : ProblemCode) {message : String}
    (visible : Text.isBlankText message = false) :
    Problem.new trace code message =
      .ok ⟨code, message, trace.map TraceId.render, none, visible⟩ := by
  unfold Problem.new
  rw [dif_pos visible]

open Program

/-! ### Services -/

namespace Service

variable {α β σ : Type} {answer : (c : Call) → σ → c.Reply × σ}

/-- The effect of a service: a result or a problem. -/
def effect (answer : (c : Call) → σ → c.Reply × σ) (service : Service α) (s : σ) :
    Effect (Except Problem α) σ :=
  Program.effect answer service.run s

theorem effect_pure (a : α) (s : σ) :
    effect answer (pure a : Service α) s = .quiet (.ok a) s := rfl

/-- A problem ends a sequence of services. -/
theorem effect_bind (service : Service α) (f : α → Service β) (s : σ) :
    effect answer (service >>= f) s =
      (effect answer service s).andThen fun
        | .ok a, s => effect answer (f a) s
        | .error problem, s => .quiet (.error problem) s := by
  refine (Program.effect_bind answer service.run _ s).trans ?_
  congr 1
  funext result s
  cases result with
  | ok a => rfl
  | error problem => rfl

theorem effect_ask_bind {c : Call} (silent : ∀ reply, Exchange.event? ⟨c, reply⟩ = none)
    (f : c.Reply → Service β) (s : σ) :
    effect answer (ask c >>= f) s = effect answer (f (answer c s).1) (answer c s).2 := by
  have asked : effect answer (ask c) s = .quiet (.ok (answer c s).1) (answer c s).2 := by
    show (⟨.finished (Except.ok (answer c s).1),
      [Exchange.mk c (answer c s).1].filterMap Exchange.event?, (answer c s).2⟩ : Effect _ _) = _
    rw [List.filterMap_cons, silent, List.filterMap_nil]
    rfl
  rw [effect_bind, asked, Effect.quiet_andThen]

theorem orElse_ok_bind {ε : Type} (a : α) (onError : ε → Service α) (f : α → Service β) :
    (orElse (.ok a) onError >>= f) = f a := rfl

/-- A refusal makes no calls. -/
theorem run_refuse {trace : Option TraceId} {code : ProblemCode} {message : String}
    {problem : Problem} (built : Problem.new trace code message = .ok problem) :
    (refuse trace code message : Service α).run = .done (.error problem) := by
  unfold refuse Service.problem
  rw [built]
  rfl

theorem run_refuseWith {trace : Option TraceId} {code : ProblemCode} {message : String}
    {problem : Problem} (built : Problem.new trace code message = .ok problem) (details : Json) :
    (refuseWith trace code message details : Service α).run =
      .done (.error (problem.withDetails details)) := by
  unfold refuseWith Service.problem
  rw [built]
  rfl

theorem effect_refuse {trace : Option TraceId} {code : ProblemCode} {message : String}
    {problem : Problem} (built : Problem.new trace code message = .ok problem) (s : σ) :
    effect answer (refuse trace code message : Service α) s = .quiet (.error problem) s := by
  unfold effect
  rw [run_refuse built]
  rfl

theorem effect_refuseWith {trace : Option TraceId} {code : ProblemCode} {message : String}
    {problem : Problem} (built : Problem.new trace code message = .ok problem) (details : Json)
    (s : σ) :
    effect answer (refuseWith trace code message details : Service α) s =
      .quiet (.error (problem.withDetails details)) s := by
  unfold effect
  rw [run_refuseWith built]
  rfl

end Service

/-! ### Handlers -/

namespace Http.Handler

variable {α β σ : Type} {answer : (c : Call) → σ → c.Reply × σ}

/-- The effect of a handler: a result or a problem, and the session it leaves. -/
def effect (answer : (c : Call) → σ → c.Reply × σ) (handler : Handler α) (session : Session)
    (s : σ) : Effect (Except Problem α × Session) σ :=
  Program.effect answer (handler.run.run session) s

theorem effect_pure (a : α) (session : Session) (s : σ) :
    effect answer (pure a : Handler α) session s = .quiet (.ok a, session) s := rfl

/-- What a handler goes on with after a result; a problem ends it. -/
def andThen (f : α → Handler β) : Except Problem α × Session → Program (Except Problem β × Session)
  | (.ok a, session) => (f a).run.run session
  | (.error problem, session) => .done (.error problem, session)

theorem run_bind (handler : Handler α) (f : α → Handler β) (session : Session) :
    (handler >>= f).run.run session = (handler.run.run session).bind (andThen f) := by
  show (handler.run.run session).bind _ = _
  congr 1
  funext result
  obtain ⟨result, session⟩ := result
  cases result with
  | ok a => rfl
  | error problem => rfl

/-- A problem ends a sequence of handlers and keeps the session as it is then. -/
theorem effect_bind (handler : Handler α) (f : α → Handler β) (session : Session) (s : σ) :
    effect answer (handler >>= f) session s =
      (effect answer handler session s).andThen fun
        | (.ok a, session), s => effect answer (f a) session s
        | (.error problem, session), s => .quiet (.error problem, session) s := by
  unfold effect
  rw [run_bind, Program.effect_bind]
  congr 1
  funext result s
  obtain ⟨result, session⟩ := result
  cases result with
  | ok a => rfl
  | error problem => rfl

theorem run_ofService (service : Service α) (session : Session) :
    (ofService service).run.run session = service.run.bind fun result => .done (result, session) :=
  rfl

theorem effect_ofService (service : Service α) (session : Session) (s : σ) :
    effect answer (ofService service) session s =
      (Service.effect answer service s).andThen fun result s => .quiet (result, session) s :=
  Program.effect_bind answer service.run (fun result => .done (result, session)) s

theorem run_refuse {trace : Option TraceId} {code : ProblemCode} {message : String}
    {problem : Problem} (built : Problem.new trace code message = .ok problem)
    (session : Session) :
    (ofService (Service.refuse trace code message) : Handler α).run.run session =
      .done (.error problem, session) := by
  show (Service.refuse trace code message : Service α).run.bind _ = _
  rw [Service.run_refuse built]
  rfl

theorem effect_refuse {trace : Option TraceId} {code : ProblemCode} {message : String}
    {problem : Problem} (built : Problem.new trace code message = .ok problem) (session : Session)
    (s : σ) :
    effect answer (ofService (Service.refuse trace code message) : Handler α) session s =
      .quiet (.error problem, session) s := by
  unfold effect
  rw [run_refuse built]
  rfl

theorem effect_change (f : Session → Session) (session : Session) (s : σ) :
    effect answer (change f) session s = .quiet (.ok (), f session) s := rfl

/-- A session that names a user is checked by comparing generations. -/
theorem run_userId_judged {session : Session} {id : UserId} {generation : Generation}
    (named : claimOf session.content = .ok (some (id, generation))) (trace : Option TraceId) :
    (userId trace).run.run session =
      (do let current ← ofService (Account.sessionGeneration trace id)
          if current = some generation then pure (some id)
          else change Session.purge >>= fun _ => pure none : Handler (Option UserId)).run.run
        session := by
  show session.check (Account.loginService trace) trace = _
  unfold Session.check
  rw [named, run_bind, run_ofService, Program.bind_assoc]
  show (Account.sessionGeneration trace id).run.bind _ = _
  congr 1
  funext reply
  cases reply with
  | error problem => rfl
  | ok current =>
    dsimp only [Program.bind, andThen]
    split
    · rfl
    · rfl

/-- A session that names nobody is not accepted, and nothing is read to find that out. -/
theorem run_userId_unnamed {session : Session}
    (unnamed : ∀ id generation, claimOf session.content ≠ .ok (some (id, generation)))
    (trace : Option TraceId) :
    ∃ result, (userId trace).run.run session = .done (result, session) ∧
      ∀ id, result ≠ .ok (some id) := by
  show ∃ result, session.check (Account.loginService trace) trace = _ ∧ _
  unfold Session.check
  cases claim : claimOf session.content with
  | error e => exact ⟨_, rfl, fun _ same => by cases same⟩
  | ok claimed =>
    cases claimed with
    | none => exact ⟨_, rfl, fun _ same => by cases same⟩
    | some named => exact (unnamed named.1 named.2 claim).elim

/-- Ends every session of the user that a session is for. -/
def revokeAll (trace : Option TraceId) : Handler Unit := do
  match ← userId trace with
  | some id => ofService (Account.revokeSessions trace id)
  | none => pure ()

theorem run_logOut (trace : Option TraceId) (session : Session) :
    (logOut trace).run.run session =
      ((revokeAll trace).run.run session).bind fun result => .done (result.1, result.2.purge) := by
  unfold revokeAll
  rw [run_bind, Program.bind_assoc]
  show ((userId trace).run.run session).bind _ = _
  congr 1
  funext checked
  obtain ⟨user, left⟩ := checked
  cases user with
  | error problem => rfl
  | ok user =>
    cases user with
    | none => rfl
    | some id =>
      dsimp only [andThen]
      rw [run_ofService, Program.bind_assoc]
      rfl

end Http.Handler

end Folio
