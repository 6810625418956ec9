import Folio.Credentials
import Folio.Document
import Folio.Follow
import Folio.Generation
import Folio.Store.Error

/-!
# Programs

A service is a program: a sequence of calls to the stores, the password hasher and the event
receivers, each of which may depend on the replies before it. What answers the calls is chosen
when a program is run.
-/

namespace Folio

/-- A call that a service makes. -/
inductive Call where
  | createUser (user : User) (hash : PasswordHash)
  | findUser (id : UserId)
  | findUsername (username : Username)
  | findCredentials (username : Username)
  | readGeneration (id : UserId)
  | advanceGeneration (id : UserId)
  | edgeExists (edge : FollowEdge)
  | insertEdge (edge : FollowEdge)
  | deleteEdge (edge : FollowEdge)
  | listDocuments (query : DocumentQuery)
  | hashPassword (password : String)
  | verifyPassword (password : String) (hash : PasswordHash)
  | publish (event : FollowEvent)
  deriving DecidableEq

/-- What a call is answered with. -/
@[reducible] def Call.Reply : Call → Type
  | createUser _ _ => Except UserStoreError Unit
  | findUser _ => Except UserStoreError (Option User)
  | findUsername _ => Except UserStoreError (Option User)
  | findCredentials _ => Except UserStoreError (Option StoredCredentials)
  | readGeneration _ => Except UserStoreError (Option Generation)
  | advanceGeneration _ => Except UserStoreError Unit
  | edgeExists _ => Except FollowStoreError Bool
  | insertEdge _ => Except FollowStoreError Unit
  | deleteEdge _ => Except FollowStoreError Bool
  | listDocuments _ => Except DocumentStoreError (List Document)
  | hashPassword _ => Except HasherError PasswordHash
  | verifyPassword _ _ => Except HasherError Bool
  | publish _ => Except ReceiverError Unit

/-- A call and its reply. -/
structure Exchange where
  call : Call
  reply : call.Reply

/-- A computation that makes calls. It crashes when it builds a problem without a message. -/
inductive Program (α : Type) where
  | done (result : α)
  | crash (cause : ProblemError)
  | call (c : Call) (next : c.Reply → Program α)

namespace Program

variable {α β γ σ : Type}

/-- Runs a program and goes on with its result. -/
def bind : Program α → (α → Program β) → Program β
  | done a, f => f a
  | crash cause, _ => crash cause
  | call c next, f => call c fun reply => bind (next reply) f

instance : Monad Program where
  pure := done
  bind := bind

/-- A single call. -/
def ask (c : Call) : Program c.Reply :=
  call c done

/-- How a run of a program ended. -/
inductive Outcome (α : Type) where
  | finished (result : α)
  | crashed (cause : ProblemError)

/-- What is left of a run: how it ended, the calls it made, and the state. -/
structure Run (α σ : Type) where
  outcome : Outcome α
  exchanges : List Exchange
  state : σ

/-- Runs a program; `answer` replies to each call and changes the state. -/
def run (answer : (c : Call) → σ → c.Reply × σ) : Program α → σ → Run α σ
  | done a, s => ⟨.finished a, [], s⟩
  | crash cause, s => ⟨.crashed cause, [], s⟩
  | call c next, s =>
    let (reply, s) := answer c s
    let rest := run answer (next reply) s
    { rest with exchanges := ⟨c, reply⟩ :: rest.exchanges }

/-! ### Laws -/

theorem bind_done (p : Program α) : p.bind done = p := by
  induction p with
  | done a => rfl
  | crash cause => rfl
  | call c next ih =>
    rw [bind]
    congr 1
    funext reply
    exact ih reply

theorem bind_assoc (p : Program α) (f : α → Program β) (g : β → Program γ) :
    (p.bind f).bind g = p.bind fun a => (f a).bind g := by
  induction p with
  | done a => rfl
  | crash cause => rfl
  | call c next ih =>
    rw [bind, bind, bind]
    congr 1
    funext reply
    exact ih reply

instance : LawfulMonad Program :=
  LawfulMonad.mk' Program bind_done (fun _ _ => rfl) bind_assoc

/-- A run of a program and of what follows it: the calls of the program come first, and after a
crash nothing follows. -/
theorem run_bind (answer : (c : Call) → σ → c.Reply × σ) (p : Program α) (f : α → Program β)
    (s : σ) :
    (p.bind f).run answer s =
      match (p.run answer s).outcome with
      | .finished a =>
        let rest := (f a).run answer (p.run answer s).state
        { rest with exchanges := (p.run answer s).exchanges ++ rest.exchanges }
      | .crashed cause =>
        ⟨.crashed cause, (p.run answer s).exchanges, (p.run answer s).state⟩ := by
  induction p generalizing s with
  | done a => rfl
  | crash cause => rfl
  | call c next ih =>
    simp only [bind, run, ih]
    cases ((next (answer c s).1).run answer (answer c s).2).outcome with
    | finished a => rfl
    | crashed cause => rfl

end Program

/-- A program that ends with a result or a problem. -/
abbrev Service (α : Type) := ExceptT Problem Program α

namespace Service

variable {α : Type}

/-- Builds a problem, or crashes when its message is blank. -/
def problem (trace : Option TraceId) (code : ProblemCode) (message : String) : Program Problem :=
  match Problem.new trace code message with
  | .ok problem => .done problem
  | .error cause => .crash cause

/-- Ends with a problem. -/
def refuse (trace : Option TraceId) (code : ProblemCode) (message : String) : Service α :=
  ExceptT.mk do return .error (← problem trace code message)

/-- Ends with a problem that has details. -/
def refuseWith (trace : Option TraceId) (code : ProblemCode) (message : String) (details : Json) :
    Service α :=
  ExceptT.mk do return .error ((← problem trace code message).withDetails details)

/-- Makes a call. -/
def ask (c : Call) : Service c.Reply :=
  ExceptT.lift (Program.ask c)

/-- Goes on with a reply, or with what `onError` makes of a failure. -/
def orElse {ε : Type} (reply : Except ε α) (onError : ε → Service α) : Service α :=
  match reply with
  | .ok a => pure a
  | .error e => onError e

end Service

end Folio
