import Folio.Proofs.Http.Serve
import Mathlib.Data.List.Induction

/-!
# Runs of visits

Visits are answered one after the other, starting without users, edges and documents. As long as
every visit brings a new id, the user store stays sound; the announcements played back give the
stored edges.
-/

namespace Folio.Http

open Program

/-- The world without users, edges and documents, whoever receives events. -/
def emptyWorld (dispatcher : Dispatcher) : World :=
  ⟨.empty, .empty, .empty, dispatcher⟩

def freshIds (visits : List Visit) : List UserId :=
  visits.map fun visit => visit.context.freshId

/-- The world that the visit at a position meets. -/
def worldBefore (hasher : Password.Hasher) (w : World) (visits : List Visit) (i : Nat) : World :=
  worldAfter hasher w (visits.take i)

/-- Everything that visits announce, in order. -/
def announced (hasher : Password.Hasher) : World → List Visit → List FollowEvent
  | _, [] => []
  | w, visit :: rest =>
    (serve hasher visit w).events ++ announced hasher (serve hasher visit w).state rest

variable {hasher : Password.Hasher} {w : World} {visits : List Visit} {visit : Visit} {i : Nat}

theorem worldAfter_concat (visits : List Visit) (visit : Visit) :
    worldAfter hasher w (visits ++ [visit]) =
      (serve hasher visit (worldAfter hasher w visits)).state := by
  unfold worldAfter
  rw [List.foldl_append]
  rfl

theorem announced_append (before after : List Visit) :
    announced hasher w (before ++ after) =
      announced hasher w before ++ announced hasher (worldAfter hasher w before) after := by
  induction before generalizing w with
  | nil => rfl
  | cons visit rest ih =>
    rw [List.cons_append, announced, announced, ih, List.append_assoc]
    rfl

theorem take_succ_of_get (here : visits[i]? = some visit) :
    visits.take (i + 1) = visits.take i ++ [visit] := by
  rw [List.take_add_one, here]
  rfl

theorem worldBefore_succ (here : visits[i]? = some visit) :
    worldBefore hasher w visits (i + 1) =
      (serve hasher visit (worldBefore hasher w visits i)).state := by
  unfold worldBefore
  rw [take_succ_of_get here, worldAfter_concat]

theorem worldBefore_past (past : visits[i]? = none) :
    worldBefore hasher w visits (i + 1) = worldBefore hasher w visits i := by
  unfold worldBefore
  rw [List.take_add_one, past]
  simp

/-- Runs are followed visit by visit: what holds at the start and is kept by every visit whose id
is new holds wherever a run leads. -/
theorem run_induction {P : List Visit → World → Prop} (start : P [] w)
    (step : ∀ before visit, visit.context.freshId ∉ freshIds before →
      P before (worldAfter hasher w before) →
      P (before ++ [visit]) (serve hasher visit (worldAfter hasher w before)).state)
    (fresh : (freshIds visits).Nodup) : P visits (worldAfter hasher w visits) := by
  induction visits using List.reverseRecOn with
  | nil => exact start
  | append_singleton before visit ih =>
    unfold freshIds at fresh
    rw [List.map_append, List.nodup_append] at fresh
    obtain ⟨earlier, _, apart⟩ := fresh
    rw [worldAfter_concat]
    refine step before visit ?_ (ih earlier)
    intro known
    exact apart _ known _ (by simp) rfl

theorem fresh_take (fresh : (freshIds visits).Nodup) (i : Nat) :
    (freshIds (visits.take i)).Nodup := by
  unfold freshIds at fresh ⊢
  rw [List.map_take]
  exact fresh.sublist (List.take_sublist _ _)

theorem freshIds_take_mono {id : UserId} {j : Nat} (later : i ≤ j)
    (known : id ∈ freshIds (visits.take i)) : id ∈ freshIds (visits.take j) :=
  ((List.take_sublist_take_left later).map _).subset known

theorem fresh_at (fresh : (freshIds visits).Nodup) (here : visits[i]? = some visit) :
    visit.context.freshId ∉ freshIds (visits.take i) := by
  have longer := fresh_take fresh (i + 1)
  rw [take_succ_of_get here] at longer
  unfold freshIds at longer ⊢
  rw [List.map_append, List.nodup_append] at longer
  intro known
  exact longer.2.2 _ known _ (by simp) rfl

/-! ### Soundness of the user store -/

theorem step_sound {known : UserId → Prop} {events : List FollowEvent} {after : World}
    (sound : Users.Sound known w.users) (new : ¬known visit.context.freshId)
    (step : Step hasher visit w events after) :
    Users.Sound (fun id => known id ∨ id = visit.context.freshId) after.users := by
  cases step with
  | still => exact Users.sound_mono sound fun _ => Or.inl
  | loggedOut route valid =>
    exact Users.sound_mono (Users.advance_sound sound _) fun _ => Or.inl
  | registered route sent accepted free hashed => exact Users.added_sound sound ⟨_, _⟩ _ free new
  | followed => exact Users.sound_mono sound fun _ => Or.inl
  | unfollowed => exact Users.sound_mono sound fun _ => Or.inl

/-- Wherever a run leads, the user store is sound and holds ids made for its visits only. -/
theorem run_sound (hasher : Password.Hasher) (dispatcher : Dispatcher)
    (fresh : (freshIds visits).Nodup) :
    Users.Sound (· ∈ freshIds visits)
      (worldAfter hasher (emptyWorld dispatcher) visits).users := by
  refine run_induction (P := fun visits w => Users.Sound (· ∈ freshIds visits) w.users)
    Users.empty_sound ?_ fresh
  intro before visit new sound
  obtain ⟨_, _, step⟩ := serve_cases hasher visit (worldAfter hasher (emptyWorld dispatcher) before)
  refine Users.sound_mono (step_sound sound new step) ?_
  intro id known
  unfold freshIds
  rw [List.map_append, List.mem_append]
  rcases known with earlier | here
  · exact Or.inl earlier
  · exact Or.inr (by simp [here])

theorem sound_before (hasher : Password.Hasher) (dispatcher : Dispatcher)
    (fresh : (freshIds visits).Nodup) (i : Nat) :
    Users.Sound (· ∈ freshIds (visits.take i))
      (worldBefore hasher (emptyWorld dispatcher) visits i).users :=
  run_sound hasher dispatcher (fresh_take fresh i)

/-! ### Runs that use ids again -/

theorem step_built {events : List FollowEvent} {after : World} (built : w.users.Built)
    (step : Step hasher visit w events after) : after.users.Built := by
  cases step with
  | still => exact built
  | loggedOut => exact .advanced _ built
  | @registered form registration hash route sent accepted free hashed =>
    have created := Users.Built.created ⟨visit.context.freshId, registration.username⟩ hash built
    rw [Users.create_free _ hash free] at created
    exact created
  | followed => exact built
  | unfollowed => exact built

/-- Wherever a run leads, also one that uses ids again, the user store was filled by its own
operations. -/
theorem run_built (hasher : Password.Hasher) (dispatcher : Dispatcher) (visits : List Visit) :
    (worldAfter hasher (emptyWorld dispatcher) visits).users.Built := by
  induction visits using List.reverseRecOn with
  | nil => exact .empty
  | append_singleton before visit ih =>
    obtain ⟨_, _, step⟩ :=
      serve_cases hasher visit (worldAfter hasher (emptyWorld dispatcher) before)
    rw [worldAfter_concat]
    exact step_built ih step

/-! ### Visits to try things out -/

/-- A visit whose ids are made from a number, with a form and perhaps a session. -/
def Visit.numbered (n : Nat) (method target body : String) (session : Option SessionContent) :
    Visit where
  context := ⟨⟨⟨BitVec.ofNat 128 n⟩⟩, ⟨⟨BitVec.ofNat 128 n⟩⟩, .initial, ⟨false, .lax⟩⟩
  salt := []
  request :=
    let (path, query) := Request.splitTarget target
    ⟨method, path, query, some "application/x-www-form-urlencoded", body, session⟩

def ada : Username := ⟨"ada", by decide, by decide, by decide +kernel⟩

def registerAda : Visit :=
  .numbered 1 "POST" "/accounts/register" "username=ada&password1=pw&password2=pw" none

/-- A hasher that keeps passwords as they are. -/
def plainHasher : Password.Hasher where
  hash _ password := .ok ⟨password⟩
  verify password hash := .ok (password == hash.encoded)

end Folio.Http
