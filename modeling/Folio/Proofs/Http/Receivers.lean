import Folio.Proofs.Http.Alike
import Folio.Proofs.Http.FollowLog

/-!
# Receivers of events

Whoever receives the events of a run, and whatever the receivers answer, the visits of the run are
answered the same and leave the same stores. The receivers may be others at every visit.
-/

namespace Folio

/-- The same stores with other receivers. -/
def World.heardBy (w : World) (dispatcher : Dispatcher) : World :=
  { w with dispatcher }

theorem World.heardBy_own {w : World} {dispatcher : Dispatcher}
    (own : w.dispatcher = dispatcher) : w.heardBy dispatcher = w := by
  subst own
  rfl

namespace Http

open Program

variable {hasher : Password.Hasher} {visit : Visit} {visits : List Visit} {w w₁ w₂ : World}
  {i : Nat}

/-- The world that the visit at a position meets, with the receivers of that time. A receiver that
remembers what it got is another one at every visit. -/
def worldAmong (hasher : Password.Hasher) (w : World) (receivers : Nat → Dispatcher)
    (visits : List Visit) : Nat → World
  | 0 => w.heardBy (receivers 0)
  | i + 1 =>
    (worldAfter hasher (worldAmong hasher w receivers visits i) visits[i]?.toList).heardBy
      (receivers (i + 1))

theorem worldAmong_succ (receivers : Nat → Dispatcher) (here : visits[i]? = some visit) :
    worldAmong hasher w receivers visits (i + 1) =
      (serve hasher visit (worldAmong hasher w receivers visits i)).state.heardBy
        (receivers (i + 1)) := by
  rw [worldAmong, here]
  rfl

theorem worldAmong_past (receivers : Nat → Dispatcher) (past : visits[i]? = none) :
    worldAmong hasher w receivers visits (i + 1) =
      (worldAmong hasher w receivers visits i).heardBy (receivers (i + 1)) := by
  rw [worldAmong, past]
  rfl

/-- Receivers that stay are those of the world that a run starts in. -/
theorem worldAmong_steady (hasher : Password.Hasher) (w : World) (dispatcher : Dispatcher)
    (visits : List Visit) (i : Nat) :
    worldAmong hasher w (fun _ => dispatcher) visits i =
      worldBefore hasher (w.heardBy dispatcher) visits i := by
  -- No visit changes the receivers, so putting them back changes nothing.
  suffices steady : worldAmong hasher w (fun _ => dispatcher) visits i =
        worldBefore hasher (w.heardBy dispatcher) visits i ∧
      (worldBefore hasher (w.heardBy dispatcher) visits i).dispatcher = dispatcher from steady.1
  induction i with
  | zero => exact ⟨rfl, rfl⟩
  | succ i ih =>
    obtain ⟨same, kept⟩ := ih
    cases here : visits[i]? with
    | none =>
      rw [worldAmong_past _ here, worldBefore_past here, same]
      exact ⟨World.heardBy_own kept, kept⟩
    | some visit =>
      obtain ⟨_, _, step⟩ :=
        serve_cases hasher visit (worldBefore hasher (w.heardBy dispatcher) visits i)
      have still := (step_fixed step).2.trans kept
      rw [worldAmong_succ _ here, worldBefore_succ here, same]
      exact ⟨World.heardBy_own still, still⟩

/-! ### Two runs side by side -/

/-- Two worlds with the same users, edges and documents. -/
structure SameStores (w₁ w₂ : World) : Prop extends Alike w₁ w₂ where
  documents : w₁.documents = w₂.documents

theorem sameStores_heardBy (same : SameStores w₁ w₂) (one other : Dispatcher) :
    SameStores (w₁.heardBy one) (w₂.heardBy other) :=
  ⟨⟨same.users, same.follows⟩, same.documents⟩

/-- One visit: the same answer, the same announcements and the same stores. -/
theorem serve_sameStores (hasher : Password.Hasher) (visit : Visit) (same : SameStores w₁ w₂) :
    (serve hasher visit w₁).outcome = (serve hasher visit w₂).outcome ∧
      (serve hasher visit w₁).events = (serve hasher visit w₂).events ∧
      SameStores (serve hasher visit w₁).state (serve hasher visit w₂).state := by
  have listing : SameListing visit w₁ w₂ := by
    intro owner viewer _
    rw [same.documents]
  have effects := serve_alike hasher same.toAlike listing
  obtain ⟨_, _, step₁⟩ := serve_cases hasher visit w₁
  obtain ⟨_, _, step₂⟩ := serve_cases hasher visit w₂
  refine ⟨effects.outcome, effects.events, effects.state, ?_⟩
  rw [(step_fixed step₁).1, (step_fixed step₂).1, same.documents]

theorem run_sameStores (hasher : Password.Hasher) (w : World) (receivers others : Nat → Dispatcher)
    (visits : List Visit) (i : Nat) :
    SameStores (worldAmong hasher w receivers visits i) (worldAmong hasher w others visits i) := by
  induction i with
  | zero => exact ⟨⟨rfl, rfl⟩, rfl⟩
  | succ i ih =>
    cases here : visits[i]? with
    | none =>
      rw [worldAmong_past _ here, worldAmong_past _ here]
      exact sameStores_heardBy ih _ _
    | some visit =>
      rw [worldAmong_succ _ here, worldAmong_succ _ here]
      exact sameStores_heardBy (serve_sameStores hasher visit ih).2.2 _ _

/-- The receivers of events make no difference, at no point of any run: the stores are the same with
any others, and whoever visits next gets the same answer and has the same announced. -/
theorem receivers_unnoticed (hasher : Password.Hasher) (w : World)
    (receivers others : Nat → Dispatcher) (visits : List Visit) (i : Nat) :
    (worldAmong hasher w receivers visits i).users =
      (worldAmong hasher w others visits i).users ∧
    (worldAmong hasher w receivers visits i).follows =
      (worldAmong hasher w others visits i).follows ∧
    (worldAmong hasher w receivers visits i).documents =
      (worldAmong hasher w others visits i).documents ∧
    ∀ visit,
      (∃ response,
        (serve hasher visit (worldAmong hasher w receivers visits i)).outcome =
          .finished response ∧
        (serve hasher visit (worldAmong hasher w others visits i)).outcome =
          .finished response) ∧
      (serve hasher visit (worldAmong hasher w receivers visits i)).events =
        (serve hasher visit (worldAmong hasher w others visits i)).events := by
  have same := run_sameStores hasher w receivers others visits i
  refine ⟨same.users, same.follows, same.documents, ?_⟩
  intro visit
  obtain ⟨outcome, events, _⟩ := serve_sameStores hasher visit same
  obtain ⟨response, ended, _⟩ := serve_cases hasher visit (worldAmong hasher w receivers visits i)
  exact ⟨⟨response, ended, outcome ▸ ended⟩, events⟩

/-- Receivers of which one fails on everything. -/
def failing : Dispatcher :=
  Dispatcher.initial.connect "audit" (.steady "audit" (some "disk full"))

/-- The receiver fails on the follow that ada asks for, and ada is told of her success. -/
theorem receivers_unnoticed_failing :
    failing.publish ⟨.followed, ⟨⟨⟨1⟩⟩, ada⟩, ⟨⟨⟨2⟩⟩, bob⟩, followBob.trace⟩ =
        .error ⟨"audit", "disk full"⟩ ∧
    (∃ response,
      (serve plainHasher followBob
        (worldBefore plainHasher (emptyWorld .initial) followVisits 2)).outcome =
          .finished response ∧
      (serve plainHasher followBob
        (worldBefore plainHasher (emptyWorld failing) followVisits 2)).outcome =
          .finished response) ∧
    (worldBefore plainHasher (emptyWorld .initial) followVisits 3).follows =
      (worldBefore plainHasher (emptyWorld failing) followVisits 3).follows := by
  obtain ⟨_, _, _, answers⟩ := receivers_unnoticed plainHasher (emptyWorld .initial)
    (fun _ => .initial) (fun _ => failing) followVisits 2
  obtain ⟨_, follows, _, _⟩ := receivers_unnoticed plainHasher (emptyWorld .initial)
    (fun _ => .initial) (fun _ => failing) followVisits 3
  rw [worldAmong_steady, worldAmong_steady] at answers follows
  exact ⟨rfl, (answers followBob).1, follows⟩

end Http

end Folio
