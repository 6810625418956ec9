import Folio.Proofs.Program.Effect
import Mathlib.Logic.Function.Basic

/-!
# Programs that take turns

Any number of programs run over one state. A turn is one call of one program; a schedule says whose
turn it is, and any list is a schedule. `Makes` bounds the calls of a program, `Throughout` says
what is true of it at every point of its run, given only which replies are possible. `reached` puts
the parts together: what every call keeps true of the common history holds at every moment.
-/

namespace Folio

namespace Program

variable {α β : Type} {allowed : Call → Prop} {possible : Exchange → Prop}

/-- How a program ended, if it has no call left to make. -/
def outcome? : Program α → Option (Outcome α)
  | done a => some (.finished a)
  | crash cause => some (.crashed cause)
  | call _ _ => none

/-! ### Calls -/

/-- Every call of a program is an allowed one, whatever the replies are. -/
inductive Makes (allowed : Call → Prop) : Program α → Prop where
  | done (a : α) : Makes allowed (done a)
  | crash (cause : ProblemError) : Makes allowed (crash cause)
  | call {c : Call} {next : c.Reply → Program α} (made : allowed c)
      (later : ∀ reply, Makes allowed (next reply)) : Makes allowed (call c next)

theorem makes_call {c : Call} {next : c.Reply → Program α} (makes : (call c next).Makes allowed) :
    allowed c ∧ ∀ reply, (next reply).Makes allowed := by
  cases makes with
  | call made later => exact ⟨made, later⟩

theorem makes_bind {p : Program α} {f : α → Program β} (first : p.Makes allowed)
    (later : ∀ a, (f a).Makes allowed) : (p.bind f).Makes allowed := by
  induction first with
  | done a => exact later a
  | crash cause => exact .crash cause
  | call made _ ih => exact .call made ih

theorem makes_mono {more : Call → Prop} {p : Program α} (wider : ∀ c, allowed c → more c)
    (makes : p.Makes allowed) : p.Makes more := by
  induction makes with
  | done a => exact .done a
  | crash cause => exact .crash cause
  | call made _ ih => exact .call (wider _ made) ih

/-! ### Points of a run -/

/-- What is true at every point of a run, of the exchanges made so far and of the outcome, if the
run has ended. Only possible replies are given; others may have acted between two calls. -/
inductive Throughout (possible : Exchange → Prop) :
    Program α → (List Exchange → Option (Outcome α) → Prop) → Prop where
  | done {a : α} {holds : List Exchange → Option (Outcome α) → Prop}
      (ended : holds [] (some (.finished a))) : Throughout possible (done a) holds
  | crash {cause : ProblemError} {holds : List Exchange → Option (Outcome α) → Prop}
      (ended : holds [] (some (.crashed cause))) : Throughout possible (crash cause) holds
  | call {c : Call} {next : c.Reply → Program α}
      {holds : List Exchange → Option (Outcome α) → Prop} (before : holds [] none)
      (later : ∀ reply, possible ⟨c, reply⟩ → Throughout possible (next reply)
        fun own outcome => holds (⟨c, reply⟩ :: own) outcome) :
      Throughout possible (call c next) holds

theorem throughout_now {p : Program α} {holds : List Exchange → Option (Outcome α) → Prop}
    (spec : p.Throughout possible holds) : holds [] p.outcome? := by
  cases spec with
  | done ended => exact ended
  | crash ended => exact ended
  | call before _ => exact before

theorem throughout_call {c : Call} {next : c.Reply → Program α}
    {holds : List Exchange → Option (Outcome α) → Prop}
    (spec : (call c next).Throughout possible holds) {reply : c.Reply}
    (replied : possible ⟨c, reply⟩) :
    (next reply).Throughout possible fun own outcome => holds (⟨c, reply⟩ :: own) outcome := by
  cases spec with
  | call _ later => exact later reply replied

theorem throughout_mono {p : Program α} {first holds : List Exchange → Option (Outcome α) → Prop}
    (spec : p.Throughout possible first) (weaker : ∀ own outcome, first own outcome →
      holds own outcome) : p.Throughout possible holds := by
  induction spec generalizing holds with
  | done ended => exact .done (weaker _ _ ended)
  | crash ended => exact .crash (weaker _ _ ended)
  | call before _ ih =>
    exact .call (weaker _ _ before) fun reply replied => ih reply replied fun own => weaker _

theorem throughout_of_makes {p : Program α} (makes : p.Makes allowed) :
    p.Throughout possible fun own _ => ∀ e ∈ own, allowed e.call := by
  induction makes with
  | done a => exact .done (by simp)
  | crash cause => exact .crash (by simp)
  | call made _ ih =>
    refine .call (by simp) fun reply _ => throughout_mono (ih reply) ?_
    intro own _ earlier
    simpa using ⟨made, earlier⟩

theorem throughout_of_forall {holds : List Exchange → Option (Outcome α) → Prop} (p : Program α)
    (always : ∀ own outcome, holds own outcome) : p.Throughout possible holds := by
  induction p generalizing holds with
  | done a => exact .done (always _ _)
  | crash cause => exact .crash (always _ _)
  | call c next ih => exact .call (always _ _) fun reply _ => ih reply fun _ _ => always _ _

theorem throughout_bind {p : Program α} {f : α → Program β}
    {first : List Exchange → Option (Outcome α) → Prop}
    {holds : List Exchange → Option (Outcome β) → Prop} (spec : p.Throughout possible first)
    (waits : ∀ own, first own none → holds own none)
    (crashes : ∀ own cause, first own (some (.crashed cause)) → holds own (some (.crashed cause)))
    (later : ∀ own a, first own (some (.finished a)) →
      (f a).Throughout possible fun rest outcome => holds (own ++ rest) outcome) :
    (p.bind f).Throughout possible holds := by
  induction spec generalizing holds with
  | done ended => exact later [] _ ended
  | crash ended => exact .crash (crashes [] _ ended)
  | call before _ ih =>
    refine .call (waits [] before) fun reply replied => ?_
    exact ih reply replied (fun own => waits _) (fun own => crashes _) (fun own => later _)

end Program

/-! ### Services -/

namespace Service

open Program

variable {α β ε : Type} {allowed : Call → Prop} {possible : Exchange → Prop}

theorem makes_bind {service : Service α} {f : α → Service β}
    (first : service.run.Makes allowed) (later : ∀ a, (f a).run.Makes allowed) :
    (service >>= f).run.Makes allowed := by
  refine Program.makes_bind first ?_
  intro result
  cases result with
  | ok a => exact later a
  | error problem => exact .done _

theorem makes_ask {c : Call} (makes : allowed c) : (ask c).run.Makes allowed :=
  .call makes fun _ => .done _

theorem makes_problem (trace : Option TraceId) (code : ProblemCode) (message : String) :
    (problem trace code message).Makes allowed := by
  unfold problem
  split
  · exact .done _
  · exact .crash _

theorem makes_refuse (trace : Option TraceId) (code : ProblemCode) (message : String) :
    (refuse trace code message : Service α).run.Makes allowed :=
  Program.makes_bind (makes_problem trace code message) fun _ => .done _

theorem makes_refuseWith (trace : Option TraceId) (code : ProblemCode) (message : String)
    (details : Json) : (refuseWith trace code message details : Service α).run.Makes allowed :=
  Program.makes_bind (makes_problem trace code message) fun _ => .done _

theorem makes_orElse {reply : Except ε α} {onError : ε → Service α}
    (failed : ∀ e, (onError e).run.Makes allowed) : (orElse reply onError).run.Makes allowed := by
  cases reply with
  | ok a => exact .done _
  | error e => exact failed e

theorem run_bind_error {service : Service α} {problem : Problem} (f : α → Service β)
    (refused : service.run = .done (.error problem)) :
    (service >>= f).run = .done (.error problem) := by
  show service.run.bind _ = _
  rw [refused]
  rfl

theorem throughout_ask_bind {c : Call} {f : c.Reply → Service β}
    {holds : List Exchange → Option (Outcome (Except Problem β)) → Prop} (before : holds [] none)
    (later : ∀ reply, possible ⟨c, reply⟩ → (f reply).run.Throughout possible
      fun own outcome => holds (⟨c, reply⟩ :: own) outcome) :
    (ask c >>= f).run.Throughout possible holds :=
  .call before later

end Service

/-! ### Turns -/

/-- A point of time between turns: what is left of each program, the exchanges made so far and who
made them, and the state. -/
structure Moment (ι : Type) (α : ι → Type) (σ : Type) where
  left : (i : ι) → Program (α i)
  history : List (ι × Exchange)
  state : σ

namespace Moment

open Program

variable {ι : Type} {α : ι → Type} {σ : Type}

def start (programs : (i : ι) → Program (α i)) (s : σ) : Moment ι α σ :=
  ⟨programs, [], s⟩

def outcome? (m : Moment ι α σ) (i : ι) : Option (Outcome (α i)) :=
  (m.left i).outcome?

variable [DecidableEq ι] {answer : ι → (c : Call) → σ → c.Reply × σ}

/-- The exchanges in a history that one program made. -/
def own (history : List (ι × Exchange)) (i : ι) : List Exchange :=
  (history.filter fun entry => entry.1 = i).map (·.2)

theorem mem_own {history : List (ι × Exchange)} {i : ι} {e : Exchange} :
    e ∈ own history i ↔ (i, e) ∈ history := by
  simp [own]

theorem own_append (history later : List (ι × Exchange)) (i : ι) :
    own (history ++ later) i = own history i ++ own later i := by
  simp [own]

theorem own_self (i : ι) (e : Exchange) : own [(i, e)] i = [e] := by
  simp [own]

theorem own_other {i j : ι} (different : j ≠ i) (e : Exchange) : own [(j, e)] i = [] := by
  simp [own, different]

theorem own_split {history : List (ι × Exchange)} {i : ι} {e : Exchange} {q : Nat}
    (here : history[q]? = some (i, e)) :
    own history i = own (history.take q) i ++ e :: own (history.drop (q + 1)) i := by
  obtain ⟨within, same⟩ := List.getElem?_eq_some_iff.mp here
  have whole : history = history.take q ++ (i, e) :: history.drop (q + 1) := by
    rw [← same, ← List.drop_eq_getElem_cons within, List.take_append_drop]
  calc own history i = own (history.take q ++ (i, e) :: history.drop (q + 1)) i :=
        congrArg (own · i) whole
    _ = own (history.take q) i ++ e :: own (history.drop (q + 1)) i := by
        rw [own_append]
        simp [own]

def events (m : Moment ι α σ) (i : ι) : List FollowEvent :=
  (own m.history i).filterMap Exchange.event?

def called (answer : ι → (c : Call) → σ → c.Reply × σ) (m : Moment ι α σ) (i : ι) (c : Call)
    (next : c.Reply → Program (α i)) : Moment ι α σ where
  left := Function.update m.left i (next (answer i c m.state).1)
  history := m.history ++ [(i, ⟨c, (answer i c m.state).1⟩)]
  state := (answer i c m.state).2

/-- One turn: the program makes its next call. Nothing happens when it has ended. -/
def turn (answer : ι → (c : Call) → σ → c.Reply × σ) (m : Moment ι α σ) (i : ι) : Moment ι α σ :=
  match m.left i with
  | .done _ => m
  | .crash _ => m
  | .call c next => m.called answer i c next

def after (answer : ι → (c : Call) → σ → c.Reply × σ) (m : Moment ι α σ) (schedule : List ι) :
    Moment ι α σ :=
  schedule.foldl (turn answer) m

theorem after_append (m : Moment ι α σ) (schedule later : List ι) :
    m.after answer (schedule ++ later) = (m.after answer schedule).after answer later :=
  List.foldl_append

theorem turn_call {m : Moment ι α σ} {i : ι} {c : Call} {next : c.Reply → Program (α i)}
    (waits : m.left i = .call c next) : m.turn answer i = m.called answer i c next := by
  unfold turn
  rw [waits]

theorem after_induction {P : Moment ι α σ → Prop} {m : Moment ι α σ} (begins : P m)
    (kept : ∀ (m : Moment ι α σ) i c next, m.left i = .call c next → P m →
      P (m.called answer i c next)) (schedule : List ι) : P (m.after answer schedule) := by
  induction schedule generalizing m with
  | nil => exact begins
  | cons i rest ih =>
    refine ih (m := m.turn answer i) ?_
    cases waits : m.left i with
    | done a => rw [turn, waits]; exact begins
    | crash cause => rw [turn, waits]; exact begins
    | call c next => rw [turn_call waits]; exact kept m i c next waits begins

theorem history_extends (m : Moment ι α σ) (schedule : List ι) :
    m.history <+: (m.after answer schedule).history := by
  refine after_induction (P := fun later => m.history <+: later.history)
    (List.prefix_refl _) ?_ schedule
  intro later i c next _ longer
  exact longer.trans (List.prefix_append _ _)

/-- No turn of a program changed the state. -/
def Idle (answer : ι → (c : Call) → σ → c.Reply × σ) (m : Moment ι α σ) (schedule : List ι)
    (i : ι) : Prop :=
  ∀ before later, schedule = before ++ i :: later →
    ((m.after answer before).turn answer i).state = (m.after answer before).state

theorem idle_of_own {m : Moment ι α σ} {schedule : List ι} {i : ι} {still : Exchange → Prop}
    (unchanged : ∀ c s, still ⟨c, (answer i c s).1⟩ → (answer i c s).2 = s)
    (quiet : ∀ e ∈ own (m.after answer schedule).history i, still e) :
    m.Idle answer schedule i := by
  rintro before later rfl
  cases waits : (m.after answer before).left i with
  | done a => rw [turn, waits]
  | crash cause => rw [turn, waits]
  | call c next =>
    rw [turn_call waits]
    refine unchanged c _ (quiet _ ?_)
    rw [mem_own, after_append]
    refine (history_extends ((m.after answer before).turn answer i) later).subset ?_
    rw [turn_call waits]
    simp [called]

/-- From here to the end of its run, given its replies `R`, `P` is true of all exchanges of a program
and of its outcome. -/
def Points (m : Moment ι α σ) (i : ι) (R : Exchange → Prop)
    (P : List Exchange → Option (Outcome (α i)) → Prop) : Prop :=
  (m.left i).Throughout R fun rest outcome => P (own m.history i ++ rest) outcome

section Points

variable {m : Moment ι α σ} {i j : ι} {R : Exchange → Prop}
  {P : List Exchange → Option (Outcome (α j)) → Prop}

theorem points_now (points : m.Points j R P) : P (own m.history j) (m.outcome? j) := by
  have now := throughout_now points
  rw [List.append_nil] at now
  exact now

theorem points_called {c : Call} {next : c.Reply → Program (α i)} (waits : m.left i = .call c next)
    (replied : j = i → R ⟨c, (answer i c m.state).1⟩) (points : m.Points j R P) :
    (m.called answer i c next).Points j R P := by
  unfold Points at points ⊢
  -- A call moves the program that makes it one exchange further, and no other program.
  by_cases same : j = i
  · subst same
    rw [waits] at points
    simp only [called, Function.update_self, own_append, own_self, List.append_assoc,
      List.singleton_append]
    exact throughout_call points (replied rfl)
  · simp only [called, Function.update_of_ne same, own_append, own_other (Ne.symm same),
      List.append_nil]
    exact points

/-- What is true of one program at every point of its run holds after every schedule. -/
theorem reached_alone {programs : (i : ι) → Program (α i)} {s : σ}
    (replies : ∀ c s, R ⟨c, (answer j c s).1⟩) (spec : (programs j).Throughout R P)
    (schedule : List ι) :
    P (own ((start programs s).after answer schedule).history j)
      (((start programs s).after answer schedule).outcome? j) := by
  have begins : (start programs s).Points j R P := spec
  refine points_now (R := R) (after_induction (P := fun m => m.Points j R P) begins ?_ schedule)
  intro m i c next waits points
  refine points_called waits ?_ points
  rintro rfl
  exact replies c m.state

end Points

section Parts

variable {J : List (ι × Exchange) → σ → Prop} {C : ι → Call → Prop} {R : ι → Exchange → Prop}
  {P : (i : ι) → List Exchange → Option (Outcome (α i)) → Prop}

/-- The parts and the whole at a moment: `J` is true of the common history and the state, each
program makes none but its calls `C` from here on, and `P` holds at each point of it. -/
structure InStep (J : List (ι × Exchange) → σ → Prop) (C : ι → Call → Prop)
    (R : ι → Exchange → Prop) (P : (i : ι) → List Exchange → Option (Outcome (α i)) → Prop)
    (m : Moment ι α σ) : Prop where
  common : J m.history m.state
  makes : ∀ i, (m.left i).Makes (C i)
  points : ∀ i, m.Points i (R i) (P i)

theorem inStep_called {m : Moment ι α σ} {i : ι} {c : Call} {next : c.Reply → Program (α i)}
    (keeps : ∀ h s i c, J h s → C i c → R i ⟨c, (answer i c s).1⟩ ∧
      J (h ++ [(i, ⟨c, (answer i c s).1⟩)]) (answer i c s).2)
    (waits : m.left i = .call c next) (before : InStep J C R P m) :
    InStep J C R P (m.called answer i c next) := by
  have makes := before.makes i
  rw [waits] at makes
  obtain ⟨made, later⟩ := makes_call makes
  obtain ⟨replied, common⟩ := keeps m.history m.state i c before.common made
  refine ⟨common, fun j => ?_, fun j => ?_⟩
  · by_cases same : j = i
    · subst same
      simp only [called, Function.update_self]
      exact later _
    · simp only [called, Function.update_of_ne same]
      exact before.makes j
  · refine points_called waits ?_ (before.points j)
    rintro rfl
    exact replied

/-- What is true of each program on its own and what every call keeps true of the whole holds after
every schedule. -/
theorem reached {programs : (i : ι) → Program (α i)} {s : σ} (begins : J [] s)
    (keeps : ∀ h s i c, J h s → C i c → R i ⟨c, (answer i c s).1⟩ ∧
      J (h ++ [(i, ⟨c, (answer i c s).1⟩)]) (answer i c s).2)
    (makes : ∀ i, (programs i).Makes (C i)) (spec : ∀ i, (programs i).Throughout (R i) (P i))
    (schedule : List ι) :
    J ((start programs s).after answer schedule).history
        ((start programs s).after answer schedule).state ∧
      ∀ i, P i (own ((start programs s).after answer schedule).history i)
        (((start programs s).after answer schedule).outcome? i) := by
  have inStep : InStep J C R P ((start programs s).after answer schedule) :=
    after_induction ⟨begins, makes, spec⟩
      (fun _ _ _ _ waits before => inStep_called keeps waits before) schedule
  exact ⟨inStep.common, fun i => points_now (inStep.points i)⟩

end Parts

/-- A program that has all the turns runs as if there were no others. -/
theorem alone (m : Moment ι α σ) (i : ι) : ∃ n,
    (m.after answer (List.replicate n i)).outcome? i =
        some ((m.left i).run (answer i) m.state).outcome ∧
      (m.after answer (List.replicate n i)).history =
        m.history ++ ((m.left i).run (answer i) m.state).exchanges.map (i, ·) ∧
      (m.after answer (List.replicate n i)).state = ((m.left i).run (answer i) m.state).state := by
  generalize whole : m.left i = p
  induction p generalizing m with
  | done a => exact ⟨0, by simp [after, outcome?, whole, Program.outcome?, run]⟩
  | crash cause => exact ⟨0, by simp [after, outcome?, whole, Program.outcome?, run]⟩
  | call c next ih =>
    obtain ⟨n, ended, history, state⟩ :=
      ih (answer i c m.state).1 (m.called answer i c next) (by simp [called])
    refine ⟨n + 1, ?_⟩
    rw [List.replicate_succ, after, List.foldl_cons, turn_call whole]
    exact ⟨ended, by rw [← after, history]; simp [called, run], state⟩

end Moment

end Folio
