import Folio.Proofs.Program.Calls
import Folio.Proofs.Store.Follows
import Folio.World

/-!
# Following at the same time

Requests to follow and to unfollow take turns over one world, call by call. Between the look at an
edge and its insertion others may insert it, and only the insertion itself decides. The successful
insertions and removals of an edge alternate, in whatever order the calls are made.
-/

namespace Folio

open Program

/-! ### Exchanges about an edge -/

namespace Exchange

def inserts (edge : FollowEdge) : Exchange → Bool
  | ⟨.insertEdge e, .ok ()⟩ => e = edge
  | _ => false

def removes (edge : FollowEdge) : Exchange → Bool
  | ⟨.deleteEdge e, .ok true⟩ => e = edge
  | _ => false

/-- An edge was found stored, by a look at it or by trying to insert it. -/
def finds (edge : FollowEdge) : Exchange → Bool
  | ⟨.edgeExists e, .ok true⟩ => e = edge
  | ⟨.insertEdge e, .error .alreadyExists⟩ => e = edge
  | _ => false

/-- An exchange that can have changed the world. -/
def changes : Exchange → Bool
  | ⟨.createUser _ _, .ok ()⟩ | ⟨.advanceGeneration _, _⟩ | ⟨.insertEdge _, .ok ()⟩
  | ⟨.deleteEdge _, _⟩ => true
  | _ => false

theorem inserts_iff {e : Exchange} {edge : FollowEdge} :
    e.inserts edge = true ↔ e = ⟨.insertEdge edge, .ok ()⟩ := by
  constructor
  · intro found
    unfold inserts at found
    split at found
    · simp only [decide_eq_true_eq] at found
      subst found
      rfl
    · cases found
  · rintro rfl
    simp [inserts]

end Exchange

namespace World

variable {hasher : Password.Hasher} {salt : List UInt8} {c : Call} {w : World}

theorem answer_unchanged
    (still : Exchange.changes ⟨c, (World.answer hasher salt c w).1⟩ = false) :
    (World.answer hasher salt c w).2 = w := by
  cases c with
  | createUser user hash =>
    by_cases taken : w.users.ids.contains user.username
    · simp [World.answer, Users.create, taken]
    · simp [World.answer, Users.create, taken, Exchange.changes] at still
  | advanceGeneration id => simp [Exchange.changes] at still
  | insertEdge edge =>
    by_cases stored : w.follows.contains edge
    · simp [World.answer, Follows.insert, stored]
    · simp [World.answer, Follows.insert, stored, Exchange.changes] at still
  | deleteEdge edge => simp [Exchange.changes] at still
  | _ => rfl

theorem answer_users (profile : c.isProfile = true) :
    (World.answer hasher salt c w).2.users = w.users := by
  cases c with
  | createUser | advanceGeneration => simp [Call.isProfile] at profile
  | _ => rfl

end World

/-! ### Balance -/

namespace Profile

section Balance

variable {τ : Type} {h : List (τ × Exchange)} {w : World} {hasher : Password.Hasher}
  {salt : List UInt8}

def inserted (h : List (τ × Exchange)) (edge : FollowEdge) : Nat :=
  h.countP fun entry => entry.2.inserts edge

def removed (h : List (τ × Exchange)) (edge : FollowEdge) : Nat :=
  h.countP fun entry => entry.2.removes edge

/-- Every insertion of an edge was undone by a removal, but for the last one when it is stored. -/
def Balanced (h : List (τ × Exchange)) (w : World) : Prop :=
  ∀ edge, inserted h edge = removed h edge + if w.follows.contains edge then 1 else 0

theorem inserted_append (h : List (τ × Exchange)) (who : τ) (e : Exchange) (edge : FollowEdge) :
    inserted (h ++ [(who, e)]) edge = inserted h edge + if e.inserts edge then 1 else 0 := by
  simp [inserted, List.countP_append, List.countP_singleton]

theorem removed_append (h : List (τ × Exchange)) (who : τ) (e : Exchange) (edge : FollowEdge) :
    removed (h ++ [(who, e)]) edge = removed h edge + if e.removes edge then 1 else 0 := by
  simp [removed, List.countP_append, List.countP_singleton]

theorem balanced_insert {edge : FollowEdge} (balanced : Balanced h w) (who : τ) :
    Balanced (h ++ [(who, ⟨.insertEdge edge, (w.follows.insert edge).1⟩)])
      { w with follows := (w.follows.insert edge).2 } := by
  intro other
  have before := balanced other
  rw [inserted_append, removed_append]
  by_cases stored : w.follows.contains edge = true
  · rw [Follows.insert_stored stored]
    simp [Exchange.inserts, Exchange.removes, before]
  · have absent : w.follows.contains edge = false := by simpa using stored
    rw [Follows.insert_absent absent]
    by_cases same : edge = other
    · subst same
      simp [absent] at before
      simp [Follows.contains_added, Exchange.inserts, Exchange.removes, before]
    · simp [Follows.contains_added, Exchange.inserts, Exchange.removes, same, before]

theorem balanced_delete {edge : FollowEdge} (balanced : Balanced h w) (who : τ) :
    Balanced (h ++ [(who, ⟨.deleteEdge edge, .ok (w.follows.delete edge).1⟩)])
      { w with follows := (w.follows.delete edge).2 } := by
  intro other
  have before := balanced other
  have answered : (w.follows.delete edge).1 = w.follows.contains edge := rfl
  rw [inserted_append, removed_append, Follows.contains_delete, answered]
  by_cases same : edge = other
  · subst same
    cases stored : w.follows.contains edge with
    | false => simpa [stored, Exchange.inserts, Exchange.removes] using before
    | true => simpa [stored, Exchange.inserts, Exchange.removes] using before
  · cases w.follows.contains edge with
    | false => simp [same, Exchange.inserts, Exchange.removes, before]
    | true => simp [same, Exchange.inserts, Exchange.removes, before]

/-- Whatever call is made, insertions and removals stay balanced. -/
theorem balanced_answer (balanced : Balanced h w) (who : τ) (c : Call) :
    Balanced (h ++ [(who, ⟨c, (World.answer hasher salt c w).1⟩)])
      (World.answer hasher salt c w).2 := by
  cases c with
  | insertEdge edge => exact balanced_insert balanced who
  | deleteEdge edge => exact balanced_delete balanced who
  | _ =>
    intro edge
    rw [inserted_append, removed_append]
    exact balanced edge

/-- An edge that somebody found stored had been inserted. -/
def Grounded (h : List (τ × Exchange)) : Prop :=
  ∀ entry ∈ h, ∀ edge, entry.2.finds edge = true → 0 < inserted h edge

theorem inserted_of_finds {edge : FollowEdge} (balanced : Balanced h w) (c : Call)
    (finds : Exchange.finds edge ⟨c, (World.answer hasher salt c w).1⟩ = true) :
    0 < inserted h edge := by
  have stored : w.follows.contains edge = true := by
    cases c with
    | edgeExists other =>
      cases stored : w.follows.contains other with
      | false => simp [World.answer, stored, Exchange.finds] at finds
      | true =>
        simp [World.answer, stored, Exchange.finds] at finds
        rw [← finds, stored]
    | insertEdge other =>
      cases stored : w.follows.contains other with
      | false => simp [World.answer, Follows.insert, stored, Exchange.finds] at finds
      | true =>
        simp [World.answer, Follows.insert, stored, Exchange.finds] at finds
        rw [← finds, stored]
    | _ => simp [Exchange.finds] at finds
  have counted := balanced edge
  rw [stored] at counted
  simp at counted
  omega

theorem grounded_answer (balanced : Balanced h w) (grounded : Grounded h) (who : τ) (c : Call) :
    Grounded (h ++ [(who, ⟨c, (World.answer hasher salt c w).1⟩)]) := by
  intro entry member edge finds
  rw [inserted_append]
  rcases List.mem_append.mp member with earlier | here
  · have := grounded entry earlier edge finds
    omega
  · rw [List.mem_singleton] at here
    subst here
    have := inserted_of_finds balanced c finds
    omega

end Balance

/-! ### Requests -/

/-- A request to follow or to unfollow, between users who are both stored. -/
structure Request (users : Users) where
  trace : Option TraceId
  id : UserId
  name : Username
  follower : User
  following : User
  source : users.find? id = some follower
  target : users.findUsername? name = some following

namespace Request

variable {users : Users}

def edge (r : Request users) : FollowEdge :=
  ⟨r.follower.id, r.following.id⟩

def event (r : Request users) (change : FollowChange) : FollowEvent :=
  ⟨change, r.follower, r.following, r.trace⟩

def follow (r : Request users) : Program (Except Problem FollowOutcome) :=
  (Profile.follow r.trace r.id r.name).run

def unfollow (r : Request users) : Program (Except Problem Unit) :=
  (Profile.unfollow r.trace r.id r.name).run

/-- The exchanges in which a request finds its two users. -/
def lookups (r : Request users) : List Exchange :=
  [⟨.findUsername r.name, .ok (some r.following)⟩, ⟨.findUser r.id, .ok (some r.follower)⟩]

end Request

variable {users : Users} {hasher : Password.Hasher} {salt : List UInt8}

/-- The ways in which a request to follow ends: the edge is seen, somebody else is quicker to insert
it, or it is inserted and announced. -/
inductive FollowEnd (r : Request users) : List Exchange → FollowOutcome → Prop where
  | seen : FollowEnd r (r.lookups ++ [⟨.edgeExists r.edge, .ok true⟩]) .alreadyFollowing
  | overtaken :
      FollowEnd r (r.lookups ++ [⟨.edgeExists r.edge, .ok false⟩,
        ⟨.insertEdge r.edge, .error .alreadyExists⟩]) .alreadyFollowing
  | followed (received : Except ReceiverError Unit) :
      FollowEnd r (r.lookups ++ [⟨.edgeExists r.edge, .ok false⟩, ⟨.insertEdge r.edge, .ok ()⟩,
        ⟨.publish (r.event .followed), received⟩]) .followed

def Replies (hasher : Password.Hasher) (salt : List UInt8) (users : Users) (e : Exchange) : Prop :=
  ∃ w : World, w.users = users ∧ (World.answer hasher salt e.call w).1 = e.reply

theorem throughout_participants {β : Type} (r : Request users) {f : User → User → Service β}
    {holds : List Exchange → Option (Outcome (Except Problem β)) → Prop}
    (waits : ∀ own, holds own none)
    (later : (f r.following r.follower).run.Throughout (Replies hasher salt users)
      fun own outcome => holds (r.lookups ++ own) outcome) :
    (do
      let following ← profileUser r.trace r.name
      let follower ← requestingUser r.trace r.id
      f following follower : Service β).run.Throughout (Replies hasher salt users) holds := by
  unfold profileUser requestingUser
  simp only [LawfulMonad.bind_assoc]
  refine Service.throughout_ask_bind (waits _) ?_
  rintro reply ⟨w, same, answered⟩
  dsimp only [World.answer] at answered
  rw [same, r.target] at answered
  subst answered
  rw [Service.orElse_ok_bind]
  dsimp only
  rw [pure_bind]
  refine Service.throughout_ask_bind (waits _) ?_
  rintro reply ⟨w, same, answered⟩
  dsimp only [World.answer] at answered
  rw [same, r.source] at answered
  subst answered
  rw [Service.orElse_ok_bind]
  dsimp only
  rw [pure_bind]
  exact later

theorem throughout_follow (r : Request users) :
    r.follow.Throughout (Replies hasher salt users) fun own outcome =>
      ∀ o, outcome = some o → ∃ result, o = .finished (.ok result) ∧ FollowEnd r own result := by
  refine throughout_participants r (fun _ o ended => by cases ended) ?_
  refine Service.throughout_ask_bind (fun o ended => by cases ended) ?_
  rintro reply ⟨w, -, answered⟩
  dsimp only [World.answer] at answered
  subst answered
  rw [Service.orElse_ok_bind]
  cases w.follows.contains _ with
  | true =>
    refine .done ?_
    rintro o ⟨⟩
    exact ⟨_, rfl, .seen⟩
  | false =>
    -- By now the world may be another one: the edge can have been inserted in between.
    refine Service.throughout_ask_bind (fun o ended => by cases ended) ?_
    rintro reply ⟨w, -, answered⟩
    dsimp only [World.answer] at answered
    by_cases stored : w.follows.contains r.edge = true
    · have refused : reply = .error .alreadyExists := by
        rw [← answered]
        exact congrArg Prod.fst (Follows.insert_stored stored)
      subst refused
      refine .done ?_
      rintro o ⟨⟩
      exact ⟨_, rfl, .overtaken⟩
    · have accepted : reply = .ok () := by
        rw [← answered]
        exact congrArg Prod.fst (Follows.insert_absent (Bool.eq_false_of_not_eq_true stored))
      subst accepted
      refine Service.throughout_ask_bind (fun o ended => by cases ended) ?_
      rintro received -
      refine .done ?_
      rintro o ⟨⟩
      exact ⟨_, rfl, .followed received⟩

/-- A request to unfollow always ends in the same way, whether or not there was an edge. -/
def UnfollowEnd (r : Request users) (own : List Exchange) : Prop :=
  ∃ present received, own = r.lookups ++ [⟨.deleteEdge r.edge, .ok present⟩,
    ⟨.publish (r.event .unfollowed), received⟩]

theorem throughout_unfollow (r : Request users) :
    r.unfollow.Throughout (Replies hasher salt users) fun own outcome =>
      ∀ o, outcome = some o → o = .finished (.ok ()) ∧ UnfollowEnd r own := by
  refine throughout_participants r (fun _ o ended => by cases ended) ?_
  refine Service.throughout_ask_bind (fun o ended => by cases ended) ?_
  rintro reply ⟨w, -, answered⟩
  dsimp only [World.answer] at answered
  subst answered
  rw [Service.orElse_ok_bind]
  refine Service.throughout_ask_bind (fun o ended => by cases ended) ?_
  rintro received -
  refine .done ?_
  rintro o ⟨⟩
  exact ⟨rfl, _, received, rfl⟩

/-! ### The race -/

section Race

variable {ι κ : Type} [DecidableEq ι] [DecidableEq κ] {w : World}

@[reducible] def Result : ι ⊕ κ → Type
  | .inl _ => Except Problem FollowOutcome
  | .inr _ => Except Problem Unit

def requests (follows : ι → Request users) (unfollows : κ → Request users) :
    (t : ι ⊕ κ) → Program (Result t)
  | .inl i => (follows i).follow
  | .inr k => (unfollows k).unfollow

/-- The moment to which a schedule of requests leads, from a world without edges. -/
def race (hasher : Password.Hasher) (salt : List UInt8) (w : World) (follows : ι → Request w.users)
    (unfollows : κ → Request w.users) (schedule : List (ι ⊕ κ)) :
    Moment (ι ⊕ κ) Result World :=
  (Moment.start (requests follows unfollows) { w with follows := .empty }).after
    (fun _ => World.answer hasher salt) schedule

structure Raced (users : Users) (h : List ((ι ⊕ κ) × Exchange)) (w : World) : Prop where
  users : w.users = users
  balanced : Balanced h w
  grounded : Grounded h

def Point (follows : ι → Request users) (unfollows : κ → Request users) :
    (t : ι ⊕ κ) → List Exchange → Option (Outcome (Result t)) → Prop
  | .inl i, own, outcome =>
    ∀ o, outcome = some o → ∃ result, o = .finished (.ok result) ∧ FollowEnd (follows i) own result
  | .inr k, own, outcome =>
    ∀ o, outcome = some o → o = .finished (.ok ()) ∧ UnfollowEnd (unfollows k) own

theorem race_reached (hasher : Password.Hasher) (salt : List UInt8)
    (follows : ι → Request w.users) (unfollows : κ → Request w.users) (schedule : List (ι ⊕ κ)) :
    Raced w.users (race hasher salt w follows unfollows schedule).history
        (race hasher salt w follows unfollows schedule).state ∧
      ∀ t, Point follows unfollows t
        (Moment.own (race hasher salt w follows unfollows schedule).history t)
        ((race hasher salt w follows unfollows schedule).outcome? t) := by
  refine Moment.reached (J := Raced w.users) (C := fun _ c => c.isProfile = true)
    (R := fun _ => Replies hasher salt w.users) ?_ ?_ ?_ ?_ schedule
  · refine ⟨rfl, ?_, ?_⟩
    · intro edge
      simp [inserted, removed, Follows.contains, Follows.empty]
    · intro entry member
      cases member
  · intro h w' t c raced profile
    refine ⟨⟨w', raced.users, rfl⟩, ?_, ?_, ?_⟩
    · rw [World.answer_users profile, raced.users]
    · exact balanced_answer raced.balanced t c
    · exact grounded_answer raced.balanced raced.grounded t c
  · rintro (i | k)
    · exact makes_follow _ _ _
    · exact makes_unfollow _ _ _
  · rintro (i | k)
    · exact throughout_follow (follows i)
    · exact throughout_unfollow (unfollows k)

variable {follows : ι → Request w.users} {unfollows : κ → Request w.users}
  {schedule : List (ι ⊕ κ)}

theorem follow_ended {i : ι} {o : Outcome (Except Problem FollowOutcome)}
    (ended : (race hasher salt w follows unfollows schedule).outcome? (.inl i) = some o) :
    ∃ result, o = .finished (.ok result) ∧
      FollowEnd (follows i)
        (Moment.own (race hasher salt w follows unfollows schedule).history (.inl i)) result :=
  (race_reached hasher salt follows unfollows schedule).2 (.inl i) o ended

theorem unfollow_ended {k : κ} {o : Outcome (Except Problem Unit)}
    (ended : (race hasher salt w follows unfollows schedule).outcome? (.inr k) = some o) :
    o = .finished (.ok ()) ∧
      UnfollowEnd (unfollows k)
        (Moment.own (race hasher salt w follows unfollows schedule).history (.inr k)) :=
  (race_reached hasher salt follows unfollows schedule).2 (.inr k) o ended

/-! ### What a request has done by its end -/

theorem followEnd_inserts {r : Request users} {own : List Exchange} {result : FollowOutcome}
    (ended : FollowEnd r own result) :
    result = .followed ↔ ⟨.insertEdge r.edge, .ok ()⟩ ∈ own := by
  cases ended with
  | seen => simp [Request.lookups]
  | overtaken => simp [Request.lookups]
  | followed received => simp [Request.lookups]

theorem followEnd_edge {r : Request users} {own : List Exchange} {result : FollowOutcome}
    {edge : FollowEdge} (ended : FollowEnd r own result)
    (inserts : ⟨.insertEdge edge, .ok ()⟩ ∈ own) : edge = r.edge := by
  cases ended with
  | seen => simp [Request.lookups] at inserts
  | overtaken => simp [Request.lookups] at inserts
  | followed received => simpa [Request.lookups] using inserts

theorem followEnd_announces {r : Request users} {own : List Exchange} {result : FollowOutcome}
    (ended : FollowEnd r own result) :
    own.filterMap Exchange.event? =
      match result with
      | .followed => [r.event .followed]
      | .alreadyFollowing => [] := by
  cases ended with
  | seen => rfl
  | overtaken => rfl
  | followed received => rfl

theorem followEnd_unchanged {r : Request users} {own : List Exchange}
    (ended : FollowEnd r own .alreadyFollowing) : ∀ e ∈ own, e.changes = false := by
  cases ended with
  | seen => simp [Request.lookups, Exchange.changes]
  | overtaken => simp [Request.lookups, Exchange.changes]

theorem followEnd_finds {r : Request users} {own : List Exchange}
    (ended : FollowEnd r own .alreadyFollowing) : ∃ e ∈ own, e.finds r.edge = true := by
  cases ended with
  | seen => exact ⟨⟨.edgeExists r.edge, .ok true⟩, by simp, by simp [Exchange.finds]⟩
  | overtaken =>
    exact ⟨⟨.insertEdge r.edge, .error .alreadyExists⟩, by simp, by simp [Exchange.finds]⟩

theorem followEnd_keeps {r : Request users} {own : List Exchange} {result : FollowOutcome}
    (ended : FollowEnd r own result) (edge : FollowEdge) : ∀ e ∈ own, e.removes edge = false := by
  cases ended with
  | seen => simp [Request.lookups, Exchange.removes]
  | overtaken => simp [Request.lookups, Exchange.removes]
  | followed received => simp [Request.lookups, Exchange.removes]

theorem unfollowEnd_removes {r : Request users} {own : List Exchange} {edge : FollowEdge}
    (ended : UnfollowEnd r own) (different : r.edge ≠ edge) :
    ∀ e ∈ own, e.removes edge = false := by
  obtain ⟨present, received, rfl⟩ := ended
  cases present with
  | false => simp [Request.lookups, Exchange.removes]
  | true => simp [Request.lookups, Exchange.removes, different]

theorem unfollowEnd_inserts {r : Request users} {own : List Exchange} {edge : FollowEdge}
    (ended : UnfollowEnd r own) : (⟨.insertEdge edge, .ok ()⟩ : Exchange) ∉ own := by
  obtain ⟨present, received, rfl⟩ := ended
  simp [Request.lookups]

/-! ### When all requests have ended -/

theorem removed_eq_zero {edge : FollowEdge}
    (ended : ∀ t, (race hasher salt w follows unfollows schedule).outcome? t ≠ none)
    (kept : ∀ k, (unfollows k).edge ≠ edge) :
    removed (race hasher salt w follows unfollows schedule).history edge = 0 := by
  refine List.countP_eq_zero.mpr ?_
  rintro ⟨t, e⟩ member
  have own := Moment.mem_own.mpr member
  obtain ⟨o, ends⟩ := Option.ne_none_iff_exists'.mp (ended t)
  rw [Bool.not_eq_true]
  cases t with
  | inl i =>
    obtain ⟨_, _, follow⟩ := follow_ended ends
    exact followEnd_keeps follow edge e own
  | inr k =>
    obtain ⟨_, unfollow⟩ := unfollow_ended ends
    exact unfollowEnd_removes unfollow (kept k) e own

theorem inserted_pos {i : ι} (ended : (race hasher salt w follows unfollows schedule).outcome?
      (.inl i) ≠ none) :
    0 < inserted (race hasher salt w follows unfollows schedule).history (follows i).edge := by
  obtain ⟨o, ends⟩ := Option.ne_none_iff_exists'.mp ended
  obtain ⟨result, _, follow⟩ := follow_ended ends
  cases result with
  | followed =>
    have inserts := Moment.mem_own.mp ((followEnd_inserts follow).mp rfl)
    exact List.countP_pos_iff.mpr ⟨_, inserts, Exchange.inserts_iff.mpr rfl⟩
  | alreadyFollowing =>
    obtain ⟨e, own, finds⟩ := followEnd_finds follow
    have grounded := (race_reached hasher salt follows unfollows schedule).1.grounded
    exact grounded _ (Moment.mem_own.mp own) _ finds

/-- The one whose insertion succeeded is the one who is told so. -/
theorem followed_of_inserted {t : ι ⊕ κ} {edge : FollowEdge}
    (ended : (race hasher salt w follows unfollows schedule).outcome? t ≠ none)
    (inserts : (t, ⟨.insertEdge edge, .ok ()⟩) ∈
      (race hasher salt w follows unfollows schedule).history) :
    ∃ i, t = .inl i ∧ (follows i).edge = edge ∧
      (race hasher salt w follows unfollows schedule).outcome? (.inl i) =
        some (.finished (.ok .followed)) := by
  obtain ⟨o, ends⟩ := Option.ne_none_iff_exists'.mp ended
  have own := Moment.mem_own.mpr inserts
  cases t with
  | inl i =>
    obtain ⟨result, rfl, follow⟩ := follow_ended ends
    have same := followEnd_edge follow own
    subst same
    refine ⟨i, rfl, rfl, ?_⟩
    rw [ends, (followEnd_inserts follow).mpr own]
  | inr k =>
    obtain ⟨_, unfollow⟩ := unfollow_ended ends
    exact (unfollowEnd_inserts unfollow own).elim

theorem inserted_by_followed {i : ι}
    (followed : (race hasher salt w follows unfollows schedule).outcome? (.inl i) =
      some (.finished (.ok .followed))) :
    (.inl i, ⟨.insertEdge (follows i).edge, .ok ()⟩) ∈
      (race hasher salt w follows unfollows schedule).history := by
  obtain ⟨result, same, follow⟩ := follow_ended followed
  cases same
  exact Moment.mem_own.mp ((followEnd_inserts follow).mp rfl)

theorem eq_of_countP_eq_one {α : Type} {p : α → Bool} {xs : List α} {x y : α}
    (one : xs.countP p = 1) (x_mem : x ∈ xs) (x_holds : p x = true) (y_mem : y ∈ xs)
    (y_holds : p y = true) : x = y := by
  rw [List.countP_eq_length_filter, List.length_eq_one_iff] at one
  obtain ⟨z, only⟩ := one
  have x_only : x ∈ [z] := only ▸ List.mem_filter.mpr ⟨x_mem, x_holds⟩
  have y_only : y ∈ [z] := only ▸ List.mem_filter.mpr ⟨y_mem, y_holds⟩
  rw [List.mem_singleton.mp x_only, List.mem_singleton.mp y_only]

theorem one_followed {edge : FollowEdge}
    (ended : ∀ t, (race hasher salt w follows unfollows schedule).outcome? t ≠ none)
    (wanted : ∃ i, (follows i).edge = edge) (kept : ∀ k, (unfollows k).edge ≠ edge) :
    (∃! i, (follows i).edge = edge ∧
        (race hasher salt w follows unfollows schedule).outcome? (.inl i) =
          some (.finished (.ok .followed))) ∧
      (race hasher salt w follows unfollows schedule).state.follows.contains edge = true := by
  -- Without removals an edge is inserted as often as it is stored, and somebody saw it stored.
  have counted := (race_reached hasher salt follows unfollows schedule).1.balanced edge
  rw [removed_eq_zero ended kept, Nat.zero_add] at counted
  obtain ⟨i, rfl⟩ := wanted
  have some := inserted_pos (ended (.inl i))
  have stored : (race hasher salt w follows unfollows schedule).state.follows.contains
      (follows i).edge = true := by
    by_contra absent
    rw [if_neg absent] at counted
    omega
  rw [if_pos stored] at counted
  obtain ⟨⟨t, e⟩, member, inserts⟩ := List.countP_pos_iff.mp some
  rw [Exchange.inserts_iff] at inserts
  subst inserts
  obtain ⟨winner, rfl, same, followed⟩ := followed_of_inserted (ended t) member
  refine ⟨⟨winner, ⟨same, followed⟩, ?_⟩, stored⟩
  rintro other ⟨alike, too⟩
  have second := inserted_by_followed too
  rw [alike] at second
  have equal := eq_of_countP_eq_one counted second (Exchange.inserts_iff.mpr rfl) member
    (Exchange.inserts_iff.mpr rfl)
  simpa using equal

/-- Following and unfollowing are free of races. At every moment the edges that were inserted and
not removed are the stored ones; whoever is told to follow is the one whose insertion succeeded, and
announces it once; whoever is told to follow already changed and announced nothing; nobody is
refused. When all have ended and nobody unfollowed, one of those who wanted an edge got it. -/
theorem follow_race_free (hasher : Password.Hasher) (salt : List UInt8) (w : World)
    (follows : ι → Request w.users) (unfollows : κ → Request w.users)
    (schedule : List (ι ⊕ κ)) :
    let m := race hasher salt w follows unfollows schedule
    (∀ edge, (inserted m.history edge : Int) - removed m.history edge =
      if m.state.follows.contains edge then 1 else 0) ∧
    (∀ i o, m.outcome? (.inl i) = some o →
      (o = .finished (.ok .followed) ∨ o = .finished (.ok .alreadyFollowing)) ∧
      (o = .finished (.ok .followed) ↔
        (.inl i, ⟨.insertEdge (follows i).edge, .ok ()⟩) ∈ m.history) ∧
      (o = .finished (.ok .followed) → m.events (.inl i) = [(follows i).event .followed]) ∧
      (o = .finished (.ok .alreadyFollowing) → m.events (.inl i) = [] ∧
        (Moment.start (requests follows unfollows) { w with follows := .empty }).Idle
          (fun _ => World.answer hasher salt) schedule (.inl i))) ∧
    (∀ k o, m.outcome? (.inr k) = some o → o = .finished (.ok ())) ∧
    ((∀ t, m.outcome? t ≠ none) → ∀ edge, (∃ i, (follows i).edge = edge) →
      (∀ k, (unfollows k).edge ≠ edge) →
      (∃! i, (follows i).edge = edge ∧ m.outcome? (.inl i) = some (.finished (.ok .followed))) ∧
        m.state.follows.contains edge = true) := by
  intro m
  have raced : Raced w.users m.history m.state :=
    (race_reached hasher salt follows unfollows schedule).1
  refine ⟨?_, ?_, ?_, fun ended edge wanted kept => one_followed ended wanted kept⟩
  · intro edge
    have counted := raced.balanced edge
    split
    · rename_i stored
      rw [if_pos stored] at counted
      omega
    · rename_i absent
      rw [if_neg absent] at counted
      omega
  · intro i o ended
    obtain ⟨result, rfl, follow⟩ := follow_ended ended
    have announced := followEnd_announces follow
    refine ⟨by cases result <;> simp, ?_, ?_, ?_⟩
    · rw [← Moment.mem_own, ← followEnd_inserts follow]
      simp
    · intro same
      cases same
      exact announced
    · intro same
      cases same
      refine ⟨announced, ?_⟩
      exact Moment.idle_of_own (fun c s still => World.answer_unchanged still)
        (followEnd_unchanged follow)
  · intro k o ended
    exact (unfollow_ended ended).1

end Race

def ann : User :=
  ⟨⟨⟨1⟩⟩, ⟨"ann", by decide, by decide, by decide +kernel⟩⟩

def ben : User :=
  ⟨⟨⟨2⟩⟩, ⟨"ben", by decide, by decide, by decide +kernel⟩⟩

def couple : World :=
  ⟨((Users.empty.create ann ⟨""⟩).2.create ben ⟨""⟩).2, .empty, .empty, .initial⟩

def annToBen : Request couple.users :=
  ⟨none, ann.id, ben.username, ann, ben, by decide +kernel, by decide +kernel⟩

def benToAnn : Request couple.users :=
  ⟨none, ben.id, ann.username, ben, ann, by decide +kernel, by decide +kernel⟩

/-- Both requests have seen that there is no edge before either of them inserts it. -/
def overtaking : List (Bool ⊕ Unit) :=
  [.inl true, .inl false, .inl true, .inl false, .inr (), .inl true, .inl false, .inr (), .inr (),
    .inl false, .inl true, .inr (), .inl false]

theorem follow_race_free_overtaken :
    (∃! i : Bool, annToBen.edge = ⟨ann.id, ben.id⟩ ∧
      (race .standard [] couple (fun _ => annToBen) (fun _ => benToAnn) overtaking).outcome?
        (.inl i) = some (.finished (.ok .followed))) ∧
    (race .standard [] couple (fun _ => annToBen) (fun _ => benToAnn)
      overtaking).state.follows.contains ⟨ann.id, ben.id⟩ = true := by
  have ended : ∀ t, (race .standard [] couple (fun _ => annToBen) (fun _ => benToAnn)
      overtaking).outcome? t ≠ none := by
    intro t
    match t with
    | .inl true => exact Option.isSome_iff_ne_none.mp (by decide +kernel)
    | .inl false => exact Option.isSome_iff_ne_none.mp (by decide +kernel)
    | .inr () => exact Option.isSome_iff_ne_none.mp (by decide +kernel)
  exact (follow_race_free .standard [] couple (fun _ => annToBen) (fun _ => benToAnn)
    overtaking).2.2.2 ended ⟨ann.id, ben.id⟩ ⟨true, rfl⟩ (fun _ => by decide)

end Profile

end Folio
