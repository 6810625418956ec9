import Folio.Proofs.Http.Failure
import Folio.Proofs.Http.FollowLog
import Folio.Proofs.Http.Login

/-!
# Failures as callers see them

Whatever the stores, the hasher and the receivers reply, a request is answered. The first failure
ends it with the status of its kind, and nobody learns the texts that are not for callers.
-/

namespace Folio

open Http

/-- The status that a failure is answered with. A username that is taken is the caller's mistake
where accounts ask for it, and nobody's where profiles do. -/
def Failure.status (route : Route) (c : Call) : Failure → Nat
  | connection _ _ => 503
  | query => 500
  | hasher => 500
  | usernameTaken => if route.forProfiles c then 500 else 400
  | alreadyExists =>
    match c with
    | .insertEdge _ => 200
    | _ => 500

namespace Http

open Program

variable {σ : Type} {route : Route} {c : Call} {failure : Failure}

/-- A response reports a failure. -/
structure Reports (route : Route) (c : Call) (failure : Failure) (response : Response) : Prop where
  status : response.status = failure.status route c
  taken : failure = .usernameTaken → route.forProfiles c = false →
    ∃ members, response.body = .json (.obj members) ∧
      members.lookup "details" = some (.obj [("fields", .obj [("username",
        .strs ["A user with that username already exists."])])])
  following : failure = .alreadyExists → ∀ edge, c = .insertEdge edge →
    response.body = .json (.obj [("error", .str "You already following this people.")])

theorem nameTaken_shown (trace : TraceId) :
    (Response.ofProblem (Account.nameTaken (some trace))).status = 400 ∧
      ∃ members, (Response.ofProblem (Account.nameTaken (some trace))).body =
          .json (.obj members) ∧
        members.lookup "details" = some (.obj [("fields", .obj [("username",
          .strs ["A user with that username already exists."])])]) := by
  have traced : (Account.nameTaken (some trace)).traceId = some trace.render := rfl
  have shows : (redact (Account.nameTaken (some trace))).toJson =
      .obj [("code", .str "invalid_request"),
        ("details", .obj [("fields", .obj [("username",
          .strs ["A user with that username already exists."])])]),
        ("message", .str "registration form is invalid"),
        ("traceId", .str trace.render)] := rfl
  rw [ofProblem_traced traced, shows]
  exact ⟨rfl, _, rfl, rfl⟩

theorem reports_failureResponse (route : Route) (trace : TraceId) (c : Call) (failure : Failure) :
    Reports route c failure (failureResponse route (some trace) c failure) := by
  have internal : (Response.ofProblem (hostProblem (some trace))).status = 500 :=
    congrArg Response.status (ofProblem_traced rfl)
  cases failure with
  | connection store message =>
    exact ⟨congrArg Response.status (ofProblem_traced rfl), nofun, nofun⟩
  | query => exact ⟨internal, nofun, nofun⟩
  | hasher => exact ⟨internal, nofun, nofun⟩
  | usernameTaken =>
    obtain ⟨status, shows⟩ := nameTaken_shown trace
    unfold failureResponse
    by_cases profiles : route.forProfiles c = true
    · rw [if_pos profiles]
      exact ⟨internal.trans (if_pos profiles).symm, by simp [profiles], nofun⟩
    · rw [if_neg profiles]
      exact ⟨status.trans (if_neg profiles).symm, fun _ _ => shows, nofun⟩
  | alreadyExists =>
    cases c with
    | insertEdge edge => exact ⟨rfl, nofun, fun _ _ _ => rfl⟩
    | _ => exact ⟨internal, nofun, nofun⟩

theorem Reports.finish {response : Response} (reports : Reports route c failure response)
    (context : Context) (session : Session) :
    Reports route c failure (App.finish context session response) :=
  ⟨reports.status, reports.taken, reports.following⟩

/-- Two ways to answer calls that differ in the replies to announcements at most. -/
def SameButReceivers (answer other : (c : Call) → σ → c.Reply × σ) : Prop :=
  ∀ c s, (other c s).2 = (answer c s).2 ∧
    (c.isAnnouncement = false → (other c s).1 = (answer c s).1)

theorem resembling_of_receivers {answer other : (c : Call) → σ → c.Reply × σ}
    (same : SameButReceivers answer other) : Resembling answer other := by
  intro c s
  refine ⟨(same c s).1, ?_⟩
  cases announces : c.isAnnouncement with
  | true => exact Or.inl rfl
  | false => exact Or.inr (Or.inl ((same c s).2 announces))

theorem respond_resembling {answer other : (c : Call) → σ → c.Reply × σ}
    (resembling : Resembling answer other) (s : σ) (context : Context) (request : Request) :
    ((App.respond context request).run other s).outcome =
      ((App.respond context request).run answer s).outcome := by
  let visit : Visit := ⟨context, [], request⟩
  show (visit.program.run other s).outcome = (visit.program.run answer s).outcome
  cases found : visit.route? with
  | none =>
    rw [program_unrouted found]
    rfl
  | some route => exact run_resembling (stops_routed found) resembling s

theorem respond_stops (answer : (c : Call) → σ → c.Reply × σ) (s : σ) (context : Context)
    (request : Request) :
    ∃ response, ((App.respond context request).run answer s).outcome = .finished response ∧
      ∀ route before e after failure,
        Route.find? request.method request.routePath = some route →
        ((App.respond context request).run answer s).exchanges = before ++ e :: after →
        e.failure? = some failure → after = [] ∧ Reports route e.call failure response := by
  let visit : Visit := ⟨context, [], request⟩
  show ∃ response, (visit.program.run answer s).outcome = _ ∧ _
  cases found : visit.route? with
  | none =>
    rw [program_unrouted found]
    refine ⟨_, rfl, ?_⟩
    intro route _ _ _ _ known
    exact absurd (found.symm.trans known) nofun
  | some route =>
    obtain ⟨response, ended, last⟩ := run_stops (stops_routed found) answer s
    refine ⟨response, ended, ?_⟩
    intro known before e after failure routed made fails
    obtain rfl : route = known := Option.some.inj (found.symm.trans routed)
    obtain ⟨stopped, ending, ⟨session, same⟩, told⟩ := last before e after failure made fails
    refine ⟨stopped, ?_⟩
    rw [← told, same]
    exact (reports_failureResponse route context.trace e.call failure).finish context session

/-- Whatever is replied to its calls, a request is answered. A failing call of a store or of the
hasher is the last one that is made, the answer reports it, and the receivers make no difference. -/
theorem failures_reported (answer : (c : Call) → σ → c.Reply × σ) (s : σ) (context : Context)
    (request : Request) :
    ∃ response, ((App.respond context request).run answer s).outcome = .finished response ∧
      (∀ route before e after failure,
        Route.find? request.method request.routePath = some route →
        ((App.respond context request).run answer s).exchanges = before ++ e :: after →
        e.failure? = some failure → after = [] ∧ Reports route e.call failure response) ∧
      ∀ other, SameButReceivers answer other →
        ((App.respond context request).run other s).outcome = .finished response := by
  obtain ⟨response, ended, last⟩ := respond_stops answer s context request
  refine ⟨response, ended, last, ?_⟩
  intro other same
  exact (respond_resembling (resembling_of_receivers same) s context request).trans ended

/-- The follow store fails without a word when an edge is to be added. -/
def speechless : (c : Call) → World → c.Reply × World :=
  Faults.answer [(.insertEdge, .connection "")] (World.answer plainHasher [])

theorem failures_reported_blank : ∃ response,
    ((App.respond followBob.context followBob.request).run speechless
      (worldBefore plainHasher (emptyWorld .initial) followVisits 2)).outcome =
        .finished response ∧ response.status = 503 := by
  obtain ⟨response, ended, last, _⟩ := failures_reported speechless
    (worldBefore plainHasher (emptyWorld .initial) followVisits 2) followBob.context
    followBob.request
  have made : ((App.respond followBob.context followBob.request).run speechless
      (worldBefore plainHasher (emptyWorld .initial) followVisits 2)).exchanges.map
        (fun e => (e.call, e.failure?)) =
      [(.readGeneration ⟨⟨1⟩⟩, none), (.findUsername bob, none), (.findUser ⟨⟨1⟩⟩, none),
        (.edgeExists ⟨⟨⟨1⟩⟩, ⟨⟨2⟩⟩⟩, none)] ++
        [(.insertEdge ⟨⟨⟨1⟩⟩, ⟨⟨2⟩⟩⟩, some (.connection .follows ""))] := by
    decide +kernel
  obtain ⟨before, rest, whole, _, failed⟩ := List.map_eq_append_iff.mp made
  obtain ⟨e, rfl, seen⟩ := List.map_eq_singleton_iff.mp failed
  obtain ⟨_, fails⟩ := Prod.mk.inj seen
  have route : Route.find? followBob.request.method followBob.request.routePath =
      some (.follow "bob") := by decide +kernel
  exact ⟨response, ended, (last _ before e [] _ route whole fails).2.status⟩

/-- Of a failed query, of the hasher and of a username that is taken, callers see only that they
happened: replies that fail alike in different words get the same answer. -/
theorem internal_texts_unseen {answer other : (c : Call) → σ → c.Reply × σ}
    (resembling : Resembling answer other) (s : σ) (context : Context) (request : Request) :
    ∃ response, ((App.respond context request).run answer s).outcome = .finished response ∧
      ((App.respond context request).run other s).outcome = .finished response := by
  obtain ⟨response, ended, _⟩ := respond_stops answer s context request
  exact ⟨response, ended, (respond_resembling resembling s context request).trans ended⟩

/-- A hasher that fails to compare, and says why. -/
def talkativeHasher (reason : String) : Password.Hasher where
  hash _ password := .ok ⟨password⟩
  verify _ _ := .error (.malformedHash reason)

theorem resembling_talkative (reason other : String) :
    Resembling (World.answer (talkativeHasher reason) []) (World.answer (talkativeHasher other) []) := by
  intro c w
  cases c with
  | verifyPassword password hash => exact ⟨rfl, Or.inr (Or.inr ⟨.hasher, rfl, rfl⟩)⟩
  | _ => exact ⟨rfl, Or.inr (Or.inl rfl)⟩

theorem internal_texts_unseen_hash : ∃ response,
    ((App.respond loginAda.context loginAda.request).run
      (World.answer (talkativeHasher "cost 12") [])
      (worldAfter plainHasher (emptyWorld .initial) [registerAda])).outcome = .finished response ∧
    ((App.respond loginAda.context loginAda.request).run
      (World.answer (talkativeHasher "") [])
      (worldAfter plainHasher (emptyWorld .initial) [registerAda])).outcome = .finished response :=
  internal_texts_unseen (resembling_talkative "cost 12" "") _ _ _

end Http

end Folio
