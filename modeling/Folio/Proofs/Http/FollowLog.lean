import Folio.Proofs.Http.Entry
import Folio.Proofs.Http.Reach
import Folio.Proofs.Store.Follows

/-!
# Following and its announcements

The announcements of a run are a complete log of the stored edges: played back, they give the edges
at every point. Who may follow or unfollow whom, and what each such visit is answered with, changes
and announces, is said in full.
-/

namespace Folio

/-- A stored user whose username is a text. -/
def Users.Has (users : Users) (username : String) (user : User) : Prop :=
  users.find? user.id = some user ∧ user.username.text = username

theorem Users.has_iff {known : UserId → Prop} {users : Users} (sound : Users.Sound known users)
    {username : String} {user : User} :
    users.Has username user ↔
      ∃ name, Username.verbatim? username = some name ∧ users.findUsername? name = some user := by
  constructor
  · rintro ⟨found, rfl⟩
    exact ⟨user.username, Username.verbatim_text _, (Users.findUsername_of_find sound found).2⟩
  · rintro ⟨name, read, found⟩
    obtain ⟨rfl, stored⟩ := Users.findUsername_some sound found
    exact ⟨stored, Username.verbatim_eq_some.mp read⟩

end Folio

namespace Folio.Http

open Program

variable {hasher : Password.Hasher} {w : World} {visits : List Visit} {visit : Visit}
  {dispatcher : Dispatcher} {i : Nat}

/-! ### The log -/

theorem step_replay {events : List FollowEvent} {after : World}
    (step : Step hasher visit w events after) :
    events.foldl FollowEvent.apply w.follows.edgeSet = after.follows.edgeSet := by
  cases step with
  | still => rfl
  | loggedOut => rfl
  | registered => rfl
  | followed => exact (Follows.edgeSet_added _).symm
  | unfollowed => exact (Follows.edgeSet_delete _).symm

/-- The announcements of a run, played back, give the stored edges. -/
theorem replay_announced (hasher : Password.Hasher) (dispatcher : Dispatcher)
    (visits : List Visit) :
    replay (announced hasher (emptyWorld dispatcher) visits) =
      (worldAfter hasher (emptyWorld dispatcher) visits).follows.edgeSet := by
  induction visits using List.reverseRecOn with
  | nil => exact Follows.edgeSet_empty.symm
  | append_singleton before visit ih =>
    obtain ⟨_, _, step⟩ :=
      serve_cases hasher visit (worldAfter hasher (emptyWorld dispatcher) before)
    rw [announced_append, replay_append, ih, worldAfter_concat, ← step_replay step]
    simp [announced]

theorem step_elsewhere {events : List FollowEvent} {after : World}
    (step : Step hasher visit w events after)
    (elsewhere : ∀ segment, visit.route? ≠ some (.follow segment) ∧
      visit.route? ≠ some (.unfollow segment)) :
    events = [] ∧ after.follows = w.follows := by
  cases step with
  | still => exact ⟨rfl, rfl⟩
  | loggedOut => exact ⟨rfl, rfl⟩
  | registered => exact ⟨rfl, rfl⟩
  | followed route => exact ((elsewhere _).1 route).elim
  | unfollowed route => exact ((elsewhere _).2 route).elim

/-! ### Answers -/

/-- A visit is refused with a status and has no effect. -/
def Refused (hasher : Password.Hasher) (visit : Visit) (w : World) (code : Nat) : Prop :=
  ∃ response, (serve hasher visit w).outcome = .finished response ∧ response.status = code ∧
    (serve hasher visit w).events = [] ∧ (serve hasher visit w).state = w

/-- A visit succeeds: what it is answered with and announces, and which edges there are after it. -/
def Succeeds (hasher : Password.Hasher) (visit : Visit) (w : World) (body : Json)
    (events : List FollowEvent) (edges : Set FollowEdge) : Prop :=
  ∃ response, (serve hasher visit w).outcome = .finished response ∧ response.status = 200 ∧
    response.body = .json body ∧ (serve hasher visit w).events = events ∧
    (serve hasher visit w).state.follows.edgeSet = edges

theorem refused_of_problem {problem : Problem} {session : Session}
    (effect : (serve hasher visit w).effect =
      .quiet (answered visit.context (.error problem, session)) w)
    (traced : problem.traceId = visit.trace.map TraceId.render) :
    Refused hasher visit w (status problem.code) := by
  obtain ⟨outcome, events, state⟩ := Run.effect_eq effect
  exact ⟨_, outcome, answered_problem_status session traced, events, state⟩

theorem succeeds_of_effect {body : Json} {session : Session} {events : List FollowEvent}
    {after : World}
    (effect : (serve hasher visit w).effect =
      ⟨.finished (answered visit.context (.ok (.ok body), session)), events, after⟩) :
    Succeeds hasher visit w body events after.follows.edgeSet := by
  obtain ⟨outcome, announced, state⟩ := Run.effect_eq effect
  exact ⟨_, outcome, rfl, rfl, announced, by rw [state]⟩

/-- A visit acts on the user whose username is in its path, in a given way. -/
def ActsOn (hasher : Password.Hasher) (visit : Visit) (w : World) (segment : String)
    (act : User → User → Session → Effect (Except Problem Response × Session) World) : Prop :=
  (serve hasher visit w).effect =
    (Handler.addressed visit.trace segment (.start visit.request.session) w act).andThen
      fun result w => .quiet (answered visit.context result) w

theorem refused_anonymous {segment : String}
    {act : User → User → Session → Effect (Except Problem Response × Session) World}
    (acts : ActsOn hasher visit w segment act) (readable : Readable visit.content)
    (anonymous : ∀ id, ¬visit.IsBy hasher w id) : Refused hasher visit w 401 := by
  have nobody : authenticated w.users visit.content = none := by
    cases found : authenticated w.users visit.content with
    | none => rfl
    | some id => exact (anonymous id (isBy_iff.mpr found)).elim
  have unchecked : (checked visit.trace w.users (.start visit.request.session)).1 = .ok none :=
    (checked_readable visit.trace readable).trans (congrArg Except.ok nobody)
  unfold ActsOn at acts
  rw [Handler.addressed_anonymous unchecked, Effect.quiet_andThen] at acts
  exact refused_of_problem acts rfl

theorem refused_unknown {known : UserId → Prop} {segment : String} {id : UserId}
    {act : User → User → Session → Effect (Except Problem Response × Session) World}
    (acts : ActsOn hasher visit w segment act) (sound : Users.Sound known w.users)
    (by_user : visit.IsBy hasher w id) (unknown : ¬∃ user, w.users.Has segment user) :
    Refused hasher visit w 404 := by
  have nobody : ∀ name, Username.verbatim? segment = some name →
      w.users.findUsername? name = none := by
    intro name read
    cases found : w.users.findUsername? name with
    | none => rfl
    | some user => exact (unknown ⟨user, (Users.has_iff sound).mpr ⟨name, read, found⟩⟩).elim
  obtain ⟨name, refused⟩ :=
    Handler.addressed_unknown visit.trace (isBy_iff.mp by_user) nobody act
  unfold ActsOn at acts
  rw [refused, Effect.quiet_andThen] at acts
  exact refused_of_problem acts rfl

theorem acts_between {known : UserId → Prop} {segment : String} {id : UserId} {user : User}
    {act : User → User → Session → Effect (Except Problem Response × Session) World}
    (acts : ActsOn hasher visit w segment act) (sound : Users.Sound known w.users)
    (by_user : visit.IsBy hasher w id) (target : w.users.Has segment user) :
    ∃ follower, w.users.find? id = some follower ∧ follower.id = id ∧
      (serve hasher visit w).effect =
        (act follower user (.start visit.request.session)).andThen
          fun result w => .quiet (answered visit.context result) w := by
  have valid := isBy_iff.mp by_user
  obtain ⟨g, current⟩ := authenticated_generation valid
  obtain ⟨follower, source⟩ := Users.find_of_generation sound current
  obtain ⟨name, read, found⟩ := (Users.has_iff sound).mp target
  refine ⟨follower, source, (Users.findUsername_of_find sound source).1, ?_⟩
  unfold ActsOn at acts
  rw [Handler.addressed_known visit.trace valid read found source] at acts
  exact acts

theorem actsOn_follow {segment : String} (route : visit.route? = some (.follow segment)) :
    ActsOn hasher visit w segment (Handler.followed visit.trace w) := by
  have effect := serve_effect hasher w route
  rw [show App.handle visit.context visit.request (.follow segment) =
    Handler.follow visit.trace segment from rfl, Handler.effect_follow] at effect
  exact effect

theorem actsOn_unfollow {segment : String} (route : visit.route? = some (.unfollow segment)) :
    ActsOn hasher visit w segment (Handler.unfollowed visit.trace w) := by
  have effect := serve_effect hasher w route
  rw [show App.handle visit.context visit.request (.unfollow segment) =
    Handler.unfollow visit.trace segment from rfl, Handler.effect_unfollow] at effect
  exact effect

theorem succeeds_following {session : Session} {follower following : User}
    (effect : (serve hasher visit w).effect =
      (Handler.followed visit.trace w follower following session).andThen
        fun result w => .quiet (answered visit.context result) w)
    (absent : (⟨follower.id, following.id⟩ : FollowEdge) ∉ w.follows.edgeSet) :
    Succeeds hasher visit w (.obj [("success", .bool true)])
      [⟨.followed, follower, following, visit.trace⟩]
      (Insert.insert ⟨follower.id, following.id⟩ w.follows.edgeSet) := by
  rw [Follows.mem_edgeSet] at absent
  unfold Handler.followed at effect
  rw [if_neg absent] at effect
  rw [← Follows.edgeSet_added]
  exact succeeds_of_effect effect

theorem succeeds_already {session : Session} {follower following : User}
    (effect : (serve hasher visit w).effect =
      (Handler.followed visit.trace w follower following session).andThen
        fun result w => .quiet (answered visit.context result) w)
    (present : (⟨follower.id, following.id⟩ : FollowEdge) ∈ w.follows.edgeSet) :
    Succeeds hasher visit w (.obj [("error", .str "You already following this people.")]) []
      w.follows.edgeSet := by
  rw [Follows.mem_edgeSet] at present
  unfold Handler.followed at effect
  rw [if_pos present] at effect
  exact succeeds_of_effect effect

/-- Whoever unfollows does not follow any more, which is announced once in any case. -/
theorem succeeds_unfollowing {session : Session} {follower following : User}
    (effect : (serve hasher visit w).effect =
      (Handler.unfollowed visit.trace w follower following session).andThen
        fun result w => .quiet (answered visit.context result) w) :
    Succeeds hasher visit w (.obj [("success", .bool true)])
      [⟨.unfollowed, follower, following, visit.trace⟩]
      (w.follows.edgeSet \ {⟨follower.id, following.id⟩}) := by
  rw [← Follows.edgeSet_delete]
  exact succeeds_of_effect effect

/-! ### The rules of following -/

/-- The session that a visit came with, if any, was set by an earlier answer of the run. -/
def Genuine (hasher : Password.Hasher) (w : World) (visits : List Visit) (i : Nat)
    (visit : Visit) : Prop :=
  ∀ content, visit.request.session = some content →
    ∃ k earlier, k < i ∧ visits[k]? = some earlier ∧
      issued hasher earlier (worldBefore hasher w visits k) = some content

theorem readable_of_genuine (genuine : Genuine hasher w visits i visit) :
    Readable visit.content := by
  unfold Visit.content
  cases came : visit.request.session with
  | none => exact ⟨none, rfl⟩
  | some content =>
    obtain ⟨_, _, _, _, sets⟩ := genuine content came
    exact readable_of_issued sets

/-- The rule for visits that act on a user: nobody gets through who is not logged in, nobody gets
through to a user who is not stored, and everybody else gets what `acts` says of the two. -/
def Rule (hasher : Password.Hasher) (w : World) (visits : List Visit) (i : Nat) (visit : Visit)
    (segment : String) (acts : World → User → User → Prop) : Prop :=
  (Readable visit.content →
    (∀ id, ¬visit.IsBy hasher (worldBefore hasher w visits i) id) →
    Refused hasher visit (worldBefore hasher w visits i) 401) ∧
  ∀ id, visit.IsBy hasher (worldBefore hasher w visits i) id →
    ((¬∃ user, (worldBefore hasher w visits i).users.Has segment user) →
      Refused hasher visit (worldBefore hasher w visits i) 404) ∧
    ∀ user, (worldBefore hasher w visits i).users.Has segment user →
      ∃ follower, (worldBefore hasher w visits i).users.find? id = some follower ∧
        follower.id = id ∧ acts (worldBefore hasher w visits i) follower user

theorem rule_of_actsOn {segment : String}
    {act : User → User → Session → Effect (Except Problem Response × Session) World}
    {acts : World → User → User → Prop} (fresh : (freshIds visits).Nodup)
    (served : ActsOn hasher visit (worldBefore hasher (emptyWorld dispatcher) visits i) segment act)
    (done : ∀ follower user,
      (serve hasher visit (worldBefore hasher (emptyWorld dispatcher) visits i)).effect =
        (act follower user (.start visit.request.session)).andThen
          (fun result w => .quiet (answered visit.context result) w) →
      acts (worldBefore hasher (emptyWorld dispatcher) visits i) follower user) :
    Rule hasher (emptyWorld dispatcher) visits i visit segment acts := by
  have sound := sound_before hasher dispatcher fresh i
  constructor
  · exact refused_anonymous served
  · intro id by_user
    constructor
    · intro unknown
      exact refused_unknown served sound by_user unknown
    · intro user target
      obtain ⟨follower, source, own, effect⟩ := acts_between served sound by_user target
      exact ⟨follower, source, own, done follower user effect⟩

/-- The log of announcements is complete at every point, and following, unfollowing and everything
else each keep to their rule, which asks for a session that can be read, as all can that were set by
an earlier answer. -/
theorem follow_log_complete (hasher : Password.Hasher) (dispatcher : Dispatcher)
    (visits : List Visit) (fresh : (freshIds visits).Nodup) (here : visits[i]? = some visit) :
    replay (announced hasher (emptyWorld dispatcher) (visits.take (i + 1))) =
        (worldBefore hasher (emptyWorld dispatcher) visits (i + 1)).follows.edgeSet ∧
    (∀ segment, visit.route? = some (.follow segment) →
      Rule hasher (emptyWorld dispatcher) visits i visit segment fun w follower user =>
        (⟨follower.id, user.id⟩ ∉ w.follows.edgeSet →
          Succeeds hasher visit w (.obj [("success", .bool true)])
            [⟨.followed, follower, user, visit.trace⟩]
            (insert ⟨follower.id, user.id⟩ w.follows.edgeSet)) ∧
        (⟨follower.id, user.id⟩ ∈ w.follows.edgeSet →
          Succeeds hasher visit w (.obj [("error", .str "You already following this people.")]) []
            w.follows.edgeSet)) ∧
    (∀ segment, visit.route? = some (.unfollow segment) →
      Rule hasher (emptyWorld dispatcher) visits i visit segment fun w follower user =>
        Succeeds hasher visit w (.obj [("success", .bool true)])
          [⟨.unfollowed, follower, user, visit.trace⟩]
          (w.follows.edgeSet \ {⟨follower.id, user.id⟩})) ∧
    ((∀ segment, visit.route? ≠ some (.follow segment) ∧
        visit.route? ≠ some (.unfollow segment)) →
      (serve hasher visit (worldBefore hasher (emptyWorld dispatcher) visits i)).events = [] ∧
        (worldBefore hasher (emptyWorld dispatcher) visits (i + 1)).follows.edgeSet =
          (worldBefore hasher (emptyWorld dispatcher) visits i).follows.edgeSet) ∧
    (Genuine hasher (emptyWorld dispatcher) visits i visit → Readable visit.content) := by
  refine ⟨replay_announced hasher dispatcher _, ?_, ?_, ?_, readable_of_genuine⟩
  · intro segment route
    refine rule_of_actsOn fresh (actsOn_follow route) ?_
    intro follower user effect
    exact ⟨succeeds_following effect, succeeds_already effect⟩
  · intro segment route
    refine rule_of_actsOn fresh (actsOn_unfollow route) ?_
    intro follower user effect
    exact succeeds_unfollowing effect
  · intro elsewhere
    obtain ⟨_, _, step⟩ :=
      serve_cases hasher visit (worldBefore hasher (emptyWorld dispatcher) visits i)
    obtain ⟨events, follows⟩ := step_elsewhere step elsewhere
    rw [worldBefore_succ here, follows]
    exact ⟨events, rfl⟩

def bob : Username := ⟨"bob", by decide, by decide, by decide +kernel⟩

def followBob : Visit :=
  .numbered 3 "POST" "/profiles/bob" "" (some (enteredContent ⟨⟨1⟩⟩ .initial []))

/-- Two users register, and one follows the other. -/
def followVisits : List Visit :=
  [registerAda,
   .numbered 2 "POST" "/accounts/register" "username=bob&password1=pw&password2=pw" none,
   followBob]

theorem follow_log_complete_bob : ∃ follower, follower.id = ⟨⟨1⟩⟩ ∧
    Succeeds plainHasher followBob
      (worldBefore plainHasher (emptyWorld .initial) followVisits 2)
      (.obj [("success", .bool true)])
      [⟨.followed, follower, ⟨⟨⟨2⟩⟩, bob⟩, followBob.trace⟩]
      (insert ⟨⟨⟨1⟩⟩, ⟨⟨2⟩⟩⟩
        (worldBefore plainHasher (emptyWorld .initial) followVisits 2).follows.edgeSet) := by
  have rules := (follow_log_complete plainHasher .initial followVisits (by decide +kernel)
    (i := 2) rfl).2.1
  have route : followBob.route? = some (.follow "bob") := by decide +kernel
  have ready : authenticated (worldBefore plainHasher (emptyWorld .initial) followVisits 2).users
        followBob.content = some ⟨⟨1⟩⟩ ∧
      (worldBefore plainHasher (emptyWorld .initial) followVisits 2).users.find? ⟨⟨2⟩⟩ =
        some ⟨⟨⟨2⟩⟩, bob⟩ ∧
      (worldBefore plainHasher (emptyWorld .initial) followVisits 2).follows.contains
        ⟨⟨⟨1⟩⟩, ⟨⟨2⟩⟩⟩ = false := by
    decide +kernel
  obtain ⟨valid, target, free⟩ := ready
  obtain ⟨follower, _, own, absent, _⟩ :=
    ((rules "bob" route).2 _ (isBy_iff.mpr valid)).2 ⟨⟨⟨2⟩⟩, bob⟩ ⟨target, rfl⟩
  rw [own] at absent
  exact ⟨follower, own, absent (by rw [Follows.mem_edgeSet, free]; simp)⟩

end Folio.Http
