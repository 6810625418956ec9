import Folio.Program

/-!
# Failing replies

Stores and the password hasher may fail. A program that stops at failures makes no call after a
failing reply, never crashes, and goes on alike whatever is replied to an announcement. `run_stops`
says what is left of a run of such a program, `run_resembling` that failures of the same kind end it
alike.
-/

namespace Folio

inductive StoreKind where
  | users
  | follows
  | documents
  deriving DecidableEq, Repr

/-- What went wrong behind a call, without the texts that are not for callers. -/
inductive Failure where
  | connection (store : StoreKind) (message : String)
  | query
  | usernameTaken
  | alreadyExists
  | hasher
  deriving DecidableEq, Repr

def UserStoreError.failure : UserStoreError → Failure
  | connection message => .connection .users message
  | query _ => .query
  | usernameTaken _ => .usernameTaken

def FollowStoreError.failure : FollowStoreError → Failure
  | connection message => .connection .follows message
  | query _ => .query
  | alreadyExists => .alreadyExists

def DocumentStoreError.failure : DocumentStoreError → Failure
  | connection message => .connection .documents message
  | query _ => .query

def HasherError.failure (_ : HasherError) : Failure := .hasher

def Failure.of? {ε α : Type} (kind : ε → Failure) : Except ε α → Option Failure
  | .ok _ => none
  | .error e => some (kind e)

/-- How a reply of a store or of the hasher fails. An announcement is never a failure. -/
def Call.failure? : (c : Call) → c.Reply → Option Failure
  | .createUser _ _, reply => Failure.of? UserStoreError.failure reply
  | .findUser _, reply => Failure.of? UserStoreError.failure reply
  | .findUsername _, reply => Failure.of? UserStoreError.failure reply
  | .findCredentials _, reply => Failure.of? UserStoreError.failure reply
  | .readGeneration _, reply => Failure.of? UserStoreError.failure reply
  | .advanceGeneration _, reply => Failure.of? UserStoreError.failure reply
  | .edgeExists _, reply => Failure.of? FollowStoreError.failure reply
  | .insertEdge _, reply => Failure.of? FollowStoreError.failure reply
  | .deleteEdge _, reply => Failure.of? FollowStoreError.failure reply
  | .listDocuments _, reply => Failure.of? DocumentStoreError.failure reply
  | .hashPassword _, reply => Failure.of? HasherError.failure reply
  | .verifyPassword _ _, reply => Failure.of? HasherError.failure reply
  | .publish _, _ => none

def Exchange.failure? (e : Exchange) : Option Failure :=
  e.call.failure? e.reply

def Call.isAnnouncement : Call → Bool
  | .publish _ => true
  | _ => false

namespace Program

variable {α β σ : Type}

/-- A program that stops at failures. `ends c next` says what becomes of failing replies to `c`. -/
inductive Stops (ends : (c : Call) → (c.Reply → Program α) → Prop) : Program α → Prop where
  | done (a : α) : Stops ends (done a)
  | announce {event : FollowEvent} {rest : Program α} (later : Stops ends rest) :
      Stops ends (call (.publish event) fun _ => rest)
  | call {c : Call} {next : c.Reply → Program α} (asks : c.isAnnouncement = false)
      (failed : ends c next)
      (later : ∀ reply, c.failure? reply = none → Stops ends (next reply)) :
      Stops ends (call c next)

theorem stops_bind {first : (c : Call) → (c.Reply → Program α) → Prop}
    {ends : (c : Call) → (c.Reply → Program β) → Prop} {p : Program α} {f : α → Program β}
    (stops : p.Stops first)
    (passes : ∀ c next, first c next → ends c fun reply => (next reply).bind f)
    (later : ∀ a, (f a).Stops ends) : (p.bind f).Stops ends := by
  induction stops with
  | done a => exact later a
  | announce _ ih => exact .announce ih
  | call asks failed _ ih => exact .call asks (passes _ _ failed) ih

/-- Failing replies to a call end a program with a result that the kind of failure decides. -/
def Decides (told : (c : Call) → (Failure → α) → Prop) (c : Call) (next : c.Reply → Program α) :
    Prop :=
  ∃ ending, told c ending ∧
    ∀ reply failure, c.failure? reply = some failure → next reply = done (ending failure)

variable {told : (c : Call) → (Failure → α) → Prop} {p : Program α}
  {answer other : (c : Call) → σ → c.Reply × σ}

theorem run_call (c : Call) (next : c.Reply → Program α) (s : σ) :
    (call c next).run answer s =
      ⟨((next (answer c s).1).run answer (answer c s).2).outcome,
        ⟨c, (answer c s).1⟩ :: ((next (answer c s).1).run answer (answer c s).2).exchanges,
        ((next (answer c s).1).run answer (answer c s).2).state⟩ :=
  rfl

/-- Whatever the replies are, such a program ends, and a failing exchange is its last one. -/
theorem run_stops (stops : p.Stops (Decides told)) (answer : (c : Call) → σ → c.Reply × σ) (s : σ) :
    ∃ a, (p.run answer s).outcome = .finished a ∧
      ∀ before e after failure, (p.run answer s).exchanges = before ++ e :: after →
        e.failure? = some failure → after = [] ∧ ∃ ending, told e.call ending ∧ ending failure = a := by
  -- A failing exchange is the first one, and then the run ends there, or one of the rest.
  induction stops generalizing s with
  | done a =>
    refine ⟨a, rfl, ?_⟩
    intro before e after failure made
    simp [run] at made
  | @announce event rest _ ih =>
    obtain ⟨a, ended, last⟩ := ih (answer (.publish event) s).2
    refine ⟨a, ended, ?_⟩
    intro before e after failure made fails
    rw [run_call] at made
    cases before with
    | nil =>
      cases made
      cases fails
    | cons _ before => exact last before e after failure (List.cons.inj made).2 fails
  | @call c next _ failed _ ih =>
    cases kind : c.failure? (answer c s).1 with
    | some failure =>
      obtain ⟨ending, tells, ends⟩ := failed
      have stopped := ends _ failure kind
      refine ⟨ending failure, by rw [run_call, stopped]; rfl, ?_⟩
      intro before e after other made fails
      rw [run_call, stopped] at made
      cases before with
      | nil =>
        cases made
        obtain rfl : failure = other := Option.some.inj (kind.symm.trans fails)
        exact ⟨rfl, ending, tells, rfl⟩
      | cons _ before => cases before <;> cases (List.cons.inj made).2
    | none =>
      obtain ⟨a, ended, last⟩ := ih _ kind (answer c s).2
      refine ⟨a, ended, ?_⟩
      intro before e after failure made fails
      rw [run_call] at made
      cases before with
      | nil =>
        cases made
        cases kind.symm.trans fails
      | cons _ before => exact last before e after failure (List.cons.inj made).2 fails

/-- Two ways to answer calls that fail alike and reply the same otherwise, except that each replies
to announcements as it likes. -/
def Resembling (answer other : (c : Call) → σ → c.Reply × σ) : Prop :=
  ∀ c s, (other c s).2 = (answer c s).2 ∧
    (c.isAnnouncement = true ∨ (other c s).1 = (answer c s).1 ∨
      ∃ failure, c.failure? (answer c s).1 = some failure ∧
        c.failure? (other c s).1 = some failure)

theorem run_resembling (stops : p.Stops (Decides told)) (resembling : Resembling answer other)
    (s : σ) : (p.run other s).outcome = (p.run answer s).outcome := by
  induction stops generalizing s with
  | done a => rfl
  | @announce event rest _ ih =>
    rw [run_call, run_call, (resembling (.publish event) s).1]
    exact ih _
  | @call c next asks failed _ ih =>
    rw [run_call, run_call]
    obtain ⟨same, announces | equal | ⟨failure, fails, fails'⟩⟩ := resembling c s
    · rw [asks] at announces
      cases announces
    · rw [same, equal]
      cases kind : c.failure? (answer c s).1 with
      | none => exact ih _ kind _
      | some failure =>
        obtain ⟨ending, _, ends⟩ := failed
        rw [ends _ failure kind]
        rfl
    · -- The replies may differ, but the program ends on both with what their kind decides.
      obtain ⟨ending, _, ends⟩ := failed
      rw [ends _ failure fails, ends _ failure fails']
      rfl

end Program

end Folio
