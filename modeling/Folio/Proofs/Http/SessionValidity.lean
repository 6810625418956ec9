import Folio.Proofs.Http.Entry
import Folio.Proofs.Http.Reach

/-!
# How long a session is valid

A session names a generation of its user. Only a logout of that user moves the stored generation,
and it moves it upwards, so that a session is valid from its issue to the first logout of its user.
-/

namespace Folio.Http

open Program

variable {hasher : Password.Hasher} {w : World} {visits : List Visit} {visit : Visit}
  {id : UserId} {i j : Nat}

def Visit.isLogout (visit : Visit) : Bool :=
  visit.route? = some .logout

/-- The visit at a position logs out while its session authenticates a user. -/
def LogsOutAt (hasher : Password.Hasher) (w : World) (visits : List Visit) (id : UserId)
    (k : Nat) : Prop :=
  ∃ visit, visits[k]? = some visit ∧ visit.route? = some .logout ∧
    visit.IsBy hasher (worldBefore hasher w visits k) id

/-- A user logs out strictly between two positions of a run. -/
def LoggedOutBetween (hasher : Password.Hasher) (w : World) (visits : List Visit) (id : UserId)
    (i j : Nat) : Prop :=
  ∃ k, i < k ∧ k < j ∧ LogsOutAt hasher w visits id k

theorem not_loggedOut_at_issue : ¬LoggedOutBetween hasher w visits id i (i + 1) := by
  rintro ⟨k, after, before, _⟩
  omega

theorem loggedOut_succ (after : i < j) :
    LoggedOutBetween hasher w visits id i (j + 1) ↔
      LoggedOutBetween hasher w visits id i j ∨ LogsOutAt hasher w visits id j := by
  constructor
  · rintro ⟨k, later, before, out⟩
    by_cases here : k = j
    · subst here
      exact Or.inr out
    · exact Or.inl ⟨k, later, by omega, out⟩
  · rintro (⟨k, later, before, out⟩ | out)
    · exact ⟨k, later, by omega, out⟩
    · exact ⟨j, after, by omega, out⟩

/-! ### Generations over a run -/

theorem step_generation_kept {events : List FollowEvent} {after : World}
    (step : Step hasher visit w events after) (old : id ≠ visit.context.freshId)
    (stays : ¬(visit.route? = some .logout ∧ visit.IsBy hasher w id)) :
    after.users.generation? id = w.users.generation? id := by
  cases step with
  | still => rfl
  | @loggedOut other route valid =>
    have different : other ≠ id := by
      intro same
      subst same
      exact stays ⟨route, isBy_iff.mpr valid⟩
    rw [Users.generation_advance, if_neg different]
  | registered => rw [Users.generation_added, if_neg (Ne.symm old)]
  | followed => rfl
  | unfollowed => rfl

theorem step_generation_le {events : List FollowEvent} {after : World} {n : Nat} {g : Generation}
    (step : Step hasher visit w events after)
    (bounded : ∀ id g, w.users.generation? id = some g → g.value ≤ n)
    (current : after.users.generation? id = some g) :
    g.value ≤ (n + [visit].countP Visit.isLogout : Nat) := by
  cases step with
  | still =>
    have := bounded id g current
    omega
  | loggedOut route valid =>
    have counted : [visit].countP Visit.isLogout = 1 := by simp [Visit.isLogout, route]
    rw [Users.generation_advance] at current
    split at current
    · obtain ⟨previous, stored, rfl⟩ := Option.map_eq_some_iff.mp current
      have := bounded id previous stored
      have := Generation.next_le previous
      omega
    · have := bounded id g current
      omega
  | registered =>
    rw [Users.generation_added] at current
    split at current
    · cases current
      exact Int.natCast_nonneg _
    · have := bounded id g current
      omega
  | followed =>
    have := bounded id g current
    omega
  | unfollowed =>
    have := bounded id g current
    omega

/-- Nobody is in a later generation than there were visits that asked to log out. -/
theorem generation_le_logouts (dispatcher : Dispatcher) (fresh : (freshIds visits).Nodup)
    {g : Generation}
    (current : (worldAfter hasher (emptyWorld dispatcher) visits).users.generation? id = some g) :
    g.value ≤ visits.countP Visit.isLogout := by
  refine run_induction (P := fun visits w => ∀ id g, w.users.generation? id = some g →
    g.value ≤ visits.countP Visit.isLogout) ?_ ?_ fresh id g current
  · intro id g current
    cases current
  · intro before visit _ bounded id g current
    obtain ⟨_, _, step⟩ :=
      serve_cases hasher visit (worldAfter hasher (emptyWorld dispatcher) before)
    rw [List.countP_append]
    exact step_generation_le step bounded current

theorem generation_logsOut (out : LogsOutAt hasher w visits id j) :
    (worldBefore hasher w visits (j + 1)).users.generation? id =
      ((worldBefore hasher w visits j).users.generation? id).map Generation.next := by
  obtain ⟨visit, here, route, by_user⟩ := out
  rw [worldBefore_succ here, serve_logout route (isBy_iff.mp by_user), Users.generation_advance,
    if_pos rfl]

theorem generation_stays (fresh : (freshIds visits).Nodup)
    (known : id ∈ freshIds (visits.take j)) (stays : ¬LogsOutAt hasher w visits id j) :
    (worldBefore hasher w visits (j + 1)).users.generation? id =
      (worldBefore hasher w visits j).users.generation? id := by
  cases here : visits[j]? with
  | none => rw [worldBefore_past here]
  | some visit =>
    obtain ⟨_, _, step⟩ := serve_cases hasher visit (worldBefore hasher w visits j)
    rw [worldBefore_succ here]
    refine step_generation_kept step ?_ ?_
    · intro same
      rw [same] at known
      exact fresh_at fresh here known
    · rintro ⟨route, by_user⟩
      exact stays ⟨visit, here, route, by_user⟩

/-- As long as logouts are fewer than generations, a logout leads to a later generation. -/
theorem generation_below (dispatcher : Dispatcher) (fresh : (freshIds visits).Nodup)
    (few : visits.countP Visit.isLogout < 2 ^ 63 - 1) {g : Generation}
    (current : (worldBefore hasher (emptyWorld dispatcher) visits j).users.generation? id =
      some g) : g.next.value = g.value + 1 := by
  have reached := generation_le_logouts dispatcher (fresh_take fresh j) current
  have part : (visits.take j).countP Visit.isLogout ≤ visits.countP Visit.isLogout :=
    (List.take_sublist j visits).countP_le
  refine Generation.next_value ?_
  unfold Generation.greatest
  omega

/-- From the issue of a session on, its user's generation is the one issued until the first logout,
and a later one from then on. -/
theorem generation_since (dispatcher : Dispatcher) (fresh : (freshIds visits).Nodup)
    (few : visits.countP Visit.isLogout < 2 ^ 63 - 1) {g : Generation}
    (known : id ∈ freshIds (visits.take (i + 1)))
    (issued : (worldBefore hasher (emptyWorld dispatcher) visits (i + 1)).users.generation? id =
      some g) (later : i + 1 ≤ j) :
    ∃ now, (worldBefore hasher (emptyWorld dispatcher) visits j).users.generation? id =
        some now ∧
      g.value ≤ now.value ∧
      (now = g ↔ ¬LoggedOutBetween hasher (emptyWorld dispatcher) visits id i j) := by
  -- Along the run the generation never falls, so that once it has moved it cannot be `g` again.
  induction j, later using Nat.le_induction with
  | base => exact ⟨g, issued, Int.le_refl _, by simpa using not_loggedOut_at_issue⟩
  | succ j later ih =>
    obtain ⟨now, current, above, unchanged⟩ := ih
    rw [loggedOut_succ later]
    by_cases out : LogsOutAt hasher (emptyWorld dispatcher) visits id j
    · have moved := generation_below dispatcher fresh few current
      refine ⟨now.next, by rw [generation_logsOut out, current]; rfl, by omega, ?_⟩
      have different : now.next ≠ g := by
        intro same
        rw [same] at moved
        omega
      simp [different, out]
    · have known : id ∈ freshIds (visits.take j) := freshIds_take_mono later known
      exact ⟨now, (generation_stays fresh known out).trans current, above, by simp [unchanged, out]⟩

/-! ### Validity -/

theorem known_of_entersAs {dispatcher : Dispatcher} (fresh : (freshIds visits).Nodup)
    (enters : visit.EntersAs (worldAfter hasher (emptyWorld dispatcher) visits).users id) :
    id ∈ freshIds visits := by
  have sound := run_sound hasher dispatcher fresh
  obtain ⟨_, name, user, _, _, found, rfl⟩ := enters
  obtain ⟨stored, record, _⟩ := Option.map_eq_some_iff.mp (Users.findUsername_some sound found).2
  exact sound.origin user.id (by rw [record]; simp)

/-- A session that was opened for a user is valid at every later point at which the user has not
logged out since, and at no other. -/
theorem session_valid_until_logout (hasher : Password.Hasher) (dispatcher : Dispatcher)
    (visits : List Visit) (fresh : (freshIds visits).Nodup)
    (few : visits.countP Visit.isLogout < 2 ^ 63 - 1) {content : SessionContent}
    (here : visits[i]? = some visit)
    (sets : issued hasher visit (worldBefore hasher (emptyWorld dispatcher) visits i) =
      some content) :
    ∃ id,
      visit.EntersAs (worldBefore hasher (emptyWorld dispatcher) visits (i + 1)).users id ∧
      ∀ j, i < j → ∀ salt trace,
        (sessionUser hasher salt trace (some content)
            (worldBefore hasher (emptyWorld dispatcher) visits j) = .finished (.ok (some id)) ↔
          ¬LoggedOutBetween hasher (emptyWorld dispatcher) visits id i j) ∧
        (LoggedOutBetween hasher (emptyWorld dispatcher) visits id i j →
          sessionUser hasher salt trace (some content)
            (worldBefore hasher (emptyWorld dispatcher) visits j) = .finished (.ok none)) := by
  obtain ⟨id, generation, enters, current, rfl⟩ := session_of_issued sets
  rw [← worldBefore_succ here] at enters current
  refine ⟨id, enters, ?_⟩
  intro j later salt trace
  have known := known_of_entersAs (fresh_take fresh (i + 1)) enters
  obtain ⟨now, stored, _, unchanged⟩ :=
    generation_since dispatcher fresh few known current later
  rw [sessionUser_entered, stored, ← unchanged]
  constructor
  · simp
  · intro out
    have moved : now ≠ generation := by
      intro same
      exact unchanged.mp same out
    simp [moved]

/-- Somebody registers, logs in elsewhere and logs out with the first session. -/
def logoutVisits : List Visit :=
  [registerAda,
   .numbered 2 "POST" "/accounts/login" "username=ada&password=pw" none,
   .numbered 3 "GET" "/accounts/logout" "" (some (enteredContent ⟨⟨1⟩⟩ .initial []))]

theorem session_valid_until_logout_later : ∃ content,
    issued plainHasher (.numbered 2 "POST" "/accounts/login" "username=ada&password=pw" none)
        (worldBefore plainHasher (emptyWorld .initial) logoutVisits 1) = some content ∧
      ∃ id, ∀ salt trace,
        (sessionUser plainHasher salt trace (some content)
            (worldBefore plainHasher (emptyWorld .initial) logoutVisits 3) =
              .finished (.ok (some id)) ↔
          ¬LoggedOutBetween plainHasher (emptyWorld .initial) logoutVisits id 1 3) := by
  have opened : (issued plainHasher
      (.numbered 2 "POST" "/accounts/login" "username=ada&password=pw" none)
      (worldBefore plainHasher (emptyWorld .initial) logoutVisits 1)).isSome = true := by
    decide +kernel
  obtain ⟨content, sets⟩ := Option.isSome_iff_exists.mp opened
  obtain ⟨id, _, valid⟩ := session_valid_until_logout plainHasher .initial logoutVisits
    (by decide +kernel) (by decide +kernel) (i := 1) rfl sets
  exact ⟨content, sets, id, fun salt trace => (valid 3 (by decide) salt trace).1⟩

end Folio.Http
