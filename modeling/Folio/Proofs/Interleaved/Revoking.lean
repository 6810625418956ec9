import Folio.Proofs.Http.Checks
import Folio.Proofs.Http.Reach

/-!
# Logging in and out at the same time

Visits of all kinds but registrations take turns over one world. A login reads the generation of its
user once, a check of a session reads it once, and between any two turns others may log out. A read
sees how many logouts came before it, so that a session is accepted by the checks that see as many
as its login did.
-/

namespace Folio

open Program

/-! ### Generations in a history -/

section Counting

variable {ι : Type} {h : List (ι × Exchange)} {u : UserId} {start : Users} {w : World}
  {hasher : Password.Hasher} {salt : List UInt8}

def advances (u : UserId) (h : List (ι × Exchange)) : Nat :=
  h.countP fun entry => entry.2.call = .advanceGeneration u

theorem advances_append (u : UserId) (h : List (ι × Exchange)) (i : ι) (e : Exchange) :
    advances u (h ++ [(i, e)]) = advances u h + if e.call = .advanceGeneration u then 1 else 0 := by
  simp [advances, List.countP_append, List.countP_singleton]

theorem advances_take_le (u : UserId) (h : List (ι × Exchange)) {p q : Nat} (order : p ≤ q) :
    advances u (h.take p) ≤ advances u (h.take q) :=
  (List.take_sublist_take_left order).countP_le

/-- The exchange at a position of a history moves a user to the next generation. -/
def AdvancesAt (h : List (ι × Exchange)) (u : UserId) (r : Nat) : Prop :=
  ∃ i e, h[r]? = some (i, e) ∧ e.call = .advanceGeneration u

theorem advances_take_succ (h : List (ι × Exchange)) (u : UserId) (r : Nat) :
    (AdvancesAt h u r → advances u (h.take (r + 1)) = advances u (h.take r) + 1) ∧
      (¬AdvancesAt h u r → advances u (h.take (r + 1)) = advances u (h.take r)) := by
  cases here : h[r]? with
  | none =>
    have past : h.take (r + 1) = h.take r := by rw [List.take_add_one, here]; simp
    refine ⟨?_, fun _ => by rw [past]⟩
    rintro ⟨i, e, found, _⟩
    rw [here] at found
    cases found
  | some entry =>
    obtain ⟨i, e⟩ := entry
    have longer : h.take (r + 1) = h.take r ++ [(i, e)] := by rw [List.take_add_one, here]; rfl
    rw [longer, advances_append]
    refine ⟨?_, ?_⟩
    · rintro ⟨j, e', found, moves⟩
      rw [here] at found
      cases found
      rw [if_pos moves]
    · intro still
      rw [if_neg fun moves => still ⟨i, e, here, moves⟩, Nat.add_zero]

theorem advances_lt {p q r : Nat} (after : p ≤ r) (before : r < q) (moves : AdvancesAt h u r) :
    advances u (h.take p) < advances u (h.take q) := by
  have here := (advances_take_succ h u r).1 moves
  have first := advances_take_le u h after
  have second := advances_take_le u h (show r + 1 ≤ q from before)
  omega

theorem advances_eq {p q : Nat} (order : p ≤ q)
    (still : ∀ r, p ≤ r → r < q → ¬AdvancesAt h u r) :
    advances u (h.take q) = advances u (h.take p) := by
  induction q, order using Nat.le_induction with
  | base => rfl
  | succ q order ih =>
    rw [(advances_take_succ h u q).2 (still q order (Nat.lt_succ_self q))]
    exact ih fun r after before => still r after (Nat.lt_succ_of_lt before)

theorem World.generation_answer {c : Call} (kept : c.creates = false) :
    (World.answer hasher salt c w).2.users.generation? u =
      (w.users.generation? u).map
        (Generation.next^[if c = .advanceGeneration u then 1 else 0]) := by
  cases c with
  | createUser user hash => cases kept
  | advanceGeneration id =>
    dsimp only [World.answer]
    rw [Users.generation_advance]
    by_cases same : id = u
    · simp [same]
    · simp [same]
  | _ => simp [World.answer]

/-- What every call keeps that creates nobody: the generations are those of the start, moved by the
logouts so far, and whoever read one saw it as it was then. -/
structure Counted (start : Users) (h : List (ι × Exchange)) (users : Users) : Prop where
  current : ∀ u, users.generation? u =
    (start.generation? u).map (Generation.next^[advances u h])
  seen : ∀ (q : Nat) (i : ι) (u : UserId) (reply : Except UserStoreError (Option Generation)),
    h[q]? = some (i, ⟨.readGeneration u, reply⟩) →
      reply = .ok ((start.generation? u).map (Generation.next^[advances u (h.take q)]))

theorem counted_start (start : Users) : Counted start ([] : List (ι × Exchange)) start := by
  refine ⟨fun u => ?_, ?_⟩
  · simp [advances]
  · intro q i u reply found
    simp at found

theorem counted_answer {c : Call} (counted : Counted start h w.users) (i : ι)
    (kept : c.creates = false) :
    Counted start (h ++ [(i, ⟨c, (World.answer hasher salt c w).1⟩)])
      (World.answer hasher salt c w).2.users := by
  refine ⟨?_, ?_⟩
  · intro u
    rw [World.generation_answer kept, counted.current u, Option.map_map, advances_append,
      ← Function.iterate_add, Nat.add_comm]
  · -- An earlier read saw what it saw; this call may be a read itself, and then sees the present.
    intro q j u reply found
    rcases Nat.lt_or_ge q h.length with earlier | last
    · rw [List.getElem?_append_left earlier] at found
      rw [List.take_append_of_le_length (Nat.le_of_lt earlier)]
      exact counted.seen q j u reply found
    · rw [List.getElem?_append_right last, List.getElem?_singleton] at found
      split at found
      · rename_i here
        obtain rfl : q = h.length := by omega
        rw [List.take_left]
        cases found
        exact congrArg Except.ok (counted.current u)
      · cases found

end Counting

namespace Http

variable {hasher : Password.Hasher}

/-! ### Positions in a history -/

section Positions

variable {ι : Type} [DecidableEq ι] {h : List (ι × Exchange)} {i j : ι} {p q : Nat} {u : UserId}

/-- A visit makes its first call at a position of a history. -/
def BeginsAt (h : List (ι × Exchange)) (j : ι) (q : Nat) : Prop :=
  (∃ e, h[q]? = some (j, e)) ∧ Moment.own (h.take q) j = []

/-- A visit reads the generation of a user at a position of a history, and reads no other. -/
structure ReadsOnce (h : List (ι × Exchange)) (i : ι) (u : UserId) (p : Nat) : Prop where
  here : ∃ reply, h[p]? = some (i, ⟨.readGeneration u, reply⟩)
  only : ∀ q v reply, h[q]? = some (i, ⟨.readGeneration v, reply⟩) → q = p

theorem own_begins {e : Exchange} {rest : List Exchange} (begins : BeginsAt h j q)
    (own : Moment.own h j = e :: rest) : h[q]? = some (j, e) := by
  obtain ⟨⟨first, here⟩, nothing⟩ := begins
  have split := Moment.own_split here
  rw [nothing, List.nil_append, own] at split
  rw [here, (List.cons.inj split).1]

/-- The last of a visit's exchanges, of a kind that the others are not of, has one position. -/
theorem last_position {before : List Exchange} {e e' : Exchange} {K : Exchange → Prop}
    (own : Moment.own h i = before ++ [e]) (others : ∀ e ∈ before, ¬K e)
    (first : h[p]? = some (i, e)) (second : h[q]? = some (i, e')) (holds : K e)
    (holds' : K e') : q = p := by
  -- After an exchange of this kind the visit makes no other, so that no two can follow each other.
  have ends : ∀ {p : Nat} {x : Exchange}, h[p]? = some (i, x) → K x →
      Moment.own (h.drop (p + 1)) i = [] := by
    intro p x here holds
    have split := Moment.own_split here
    rw [own] at split
    rcases List.eq_nil_or_concat (Moment.own (h.drop (p + 1)) i) with nothing | ⟨rest, y, more⟩
    · exact nothing
    · rw [more, List.concat_eq_append, ← List.cons_append, ← List.append_assoc] at split
      have earlier := (List.append_inj' split rfl).1
      exact (others x (by rw [earlier]; simp) holds).elim
  have apart : ∀ {p q : Nat} {x y : Exchange}, h[p]? = some (i, x) → K x →
      h[q]? = some (i, y) → ¬p < q := by
    intro p q x y first holds second before
    have later : (h.drop (p + 1))[q - (p + 1)]? = some (i, y) := by
      rw [List.getElem?_drop, Nat.add_sub_cancel' before]
      exact second
    have member := Moment.mem_own.mpr (List.mem_of_getElem? later)
    rw [ends first holds] at member
    cases member
  have one := apart first holds second
  have two := apart second holds' first
  omega

end Positions

/-! ### Verdicts -/

section Verdicts

variable {ι : Type} {h : List (ι × Exchange)} {start users : Users} {i j : ι} {u : UserId}
  {p q : Nat}

/-- What a check at `q` answers about a session whose login read its generation at `p`. -/
structure Judged (h : List (ι × Exchange)) (u : UserId) (p q : Nat)
    (verdict : Option (Except Problem (Option UserId))) : Prop where
  settled : verdict = some (.ok (some u)) ∨ verdict = some (.ok none)
  accepted : verdict = some (.ok (some u)) ↔ advances u (h.take q) = advances u (h.take p)
  revoked : ∀ r, p < r → r < q → AdvancesAt h u r → verdict = some (.ok none)
  kept : p < q → (∀ r, p < r → r < q → ¬AdvancesAt h u r) → verdict = some (.ok (some u))

theorem judged_of_counts {accepted : Prop} [Decidable accepted]
    (compared : accepted ↔ advances u (h.take q) = advances u (h.take p))
    (reads : ¬AdvancesAt h u p) :
    Judged h u p q (some (.ok (if accepted then some u else none))) := by
  refine ⟨?_, ?_, ?_, ?_⟩
  · by_cases valid : accepted
    · exact Or.inl (by rw [if_pos valid])
    · exact Or.inr (by rw [if_neg valid])
  · rw [← compared]
    by_cases valid : accepted
    · simp [valid]
    · simp [valid]
  · intro r after before moves
    have more := advances_lt (Nat.le_of_lt after) before moves
    rw [if_neg fun valid => by rw [compared] at valid; omega]
  · intro order still
    have equal : advances u (h.take q) = advances u (h.take p) := by
      refine advances_eq (Nat.le_of_lt order) ?_
      intro r after before
      rcases Nat.eq_or_lt_of_le after with rfl | later
      · exact reads
      · exact still r later before
    rw [if_pos (compared.mpr equal)]

/-- Two reads of one user's generation saw the same one if as many logouts came before them. -/
theorem seen_eq_iff {g : Generation} {now : Option Generation} (counted : Counted start h users)
    (first : h[p]? = some (i, ⟨.readGeneration u, .ok (some g)⟩))
    (second : h[q]? = some (j, ⟨.readGeneration u, .ok now⟩))
    (below : ∀ g, users.generation? u = some g → g.value < Generation.greatest) :
    now = some g ↔ advances u (h.take q) = advances u (h.take p) := by
  have saw : some g = _ := Except.ok.inj (counted.seen p i u _ first)
  have saw' : now = _ := Except.ok.inj (counted.seen q j u _ second)
  have current := counted.current u
  cases began : start.generation? u with
  | none =>
    rw [began] at saw
    cases saw
  | some g₀ =>
    rw [began, Option.map_some] at saw saw' current
    -- Below the greatest generation each advance counts, and generations tell their numbers apart.
    have value := Generation.iterate_next_value (List.take_sublist p h).countP_le (below _ current)
    have value' := Generation.iterate_next_value (List.take_sublist q h).countP_le (below _ current)
    rw [saw, saw']
    constructor
    · intro same
      have equal := congrArg Generation.value (Option.some.inj same)
      unfold advances at equal ⊢
      omega
    · intro same
      rw [same]

end Verdicts

/-! ### The race -/

section Race

variable {ι : Type} [DecidableEq ι] {w : World} {visits : ι → Visit} {i j : ι}

def visiting (hasher : Password.Hasher) (w : World) (visits : ι → Visit) (schedule : List ι) :
    Moment ι (fun _ => Response) World :=
  (Moment.start (fun i => (visits i).program) w).after
    (fun i => World.answer hasher (visits i).salt) schedule

theorem visiting_counted (hasher : Password.Hasher) (w : World)
    (others : ∀ i, (visits i).route? ≠ some .register) (schedule : List ι) :
    Counted w.users (visiting hasher w visits schedule).history
      (visiting hasher w visits schedule).state.users := by
  refine (Moment.reached (J := fun h (w' : World) => Counted w.users h w'.users)
    (C := fun _ c => c.creates = false) (R := fun _ _ => True) (P := fun _ _ _ => True)
    (counted_start w.users) ?_ (fun i => App.makes_respond _ (others i))
    (fun i => throughout_of_forall _ fun _ _ => trivial) schedule).1
  intro h w' i c counted kept
  exact ⟨trivial, counted_answer counted i kept⟩

theorem visiting_point {P : List Exchange → Option (Outcome Response) → Prop}
    (spec : (visits i).program.Throughout (Replied hasher (visits i)) P) (schedule : List ι) :
    P (Moment.own (visiting hasher w visits schedule).history i)
      ((visiting hasher w visits schedule).outcome? i) := by
  unfold visiting
  refine Moment.reached_alone (R := Replied hasher (visits i)) ?_ ?_ schedule
  · exact fun c s => ⟨s, rfl⟩
  · exact spec

theorem visiting_judged {route : Route} {content : SessionContent} {u : UserId} {g : Generation}
    {p q : Nat} {schedule : List ι} (others : ∀ i, (visits i).route? ≠ some .register)
    (read : (visiting hasher w visits schedule).history[p]? =
      some (i, ⟨.readGeneration u, .ok (some g)⟩))
    (named : claimOf content = .ok (some (u, g)))
    (below : ∀ now, (visiting hasher w visits schedule).state.users.generation? u = some now →
      now.value < Generation.greatest)
    (found : (visits j).route? = some route) (checks : route.checks = true)
    (sent : (visits j).request.session = some content)
    (begins : BeginsAt (visiting hasher w visits schedule).history j q) :
    Judged (visiting hasher w visits schedule).history u p q
      ((visits j).verdict? (Moment.own (visiting hasher w visits schedule).history j)) := by
  have counted := visiting_counted hasher w others schedule
  have claims : claimOf (visits j).content = .ok (some (u, g)) := by
    unfold Visit.content
    rw [sent]
    exact named
  rcases visiting_point (throughout_checks found checks claims) schedule with
    nothing | ⟨reply, rest, own⟩
  · obtain ⟨⟨e, here⟩, _⟩ := begins
    have member := Moment.mem_own.mpr (List.mem_of_getElem? here)
    rw [nothing] at member
    cases member
  · have here := own_begins begins own
    have saw := counted.seen q j u reply here
    subst saw
    rw [own, verdict_named claims]
    refine judged_of_counts (seen_eq_iff counted read here below) ?_
    rintro ⟨_, _, again, moves⟩
    rw [read] at again
    cases again
    cases moves

/-- Revocation holds however visits take turns. No advance of a generation is lost. A logout whose
check accepts a user advances that user once, any other logout nobody. A session that a login set is
accepted by exactly the checks that had as many advances of its user before them as the login's read
of the generation: by none that comes after an advance that came after that read, and by all with no
such advance before them, whatever happens to other users. -/
theorem revocation_interleaved (hasher : Password.Hasher) (w : World) (visits : ι → Visit)
    (others : ∀ i, (visits i).route? ≠ some .register) (schedule : List ι) :
    let m := visiting hasher w visits schedule
    (∀ u g, w.users.generation? u = some g →
      ∃ now, m.state.users.generation? u = some now ∧
        (now.value < Generation.greatest → now.value = g.value + advances u m.history)) ∧
    (∀ j u, (visits j).route? = some .logout → m.outcome? j ≠ none →
      ((visits j).verdict? (Moment.own m.history j) = some (.ok (some u)) →
        (Moment.own m.history j).countP (fun e => e.call = .advanceGeneration u) = 1) ∧
      ((visits j).verdict? (Moment.own m.history j) ≠ some (.ok (some u)) →
        (Moment.own m.history j).countP (fun e => e.call = .advanceGeneration u) = 0)) ∧
    (∀ i response content, (visits i).route? = some .login →
      m.outcome? i = some (.finished response) → response.session? = some content →
      ∃ u g p, claimOf content = .ok (some (u, g)) ∧ ReadsOnce m.history i u p ∧
        ((∀ now, m.state.users.generation? u = some now → now.value < Generation.greatest) →
          ∀ j route q, (visits j).route? = some route → route.checks = true →
            (visits j).request.session = some content → BeginsAt m.history j q →
            Judged m.history u p q ((visits j).verdict? (Moment.own m.history j)))) := by
  intro m
  have counted : Counted w.users m.history m.state.users :=
    visiting_counted hasher w others schedule
  refine ⟨?_, ?_, ?_⟩
  · intro u g began
    have current := counted.current u
    rw [began, Option.map_some] at current
    exact ⟨_, current, Generation.iterate_next_value (Nat.le_refl _)⟩
  · intro j u route ended
    exact visiting_point (throughout_logout route) schedule ended u
  · intro i response content route ended sets
    obtain ⟨before, u, g, own, made, rfl⟩ :=
      visiting_point (throughout_entry route) schedule response content ended sets
    have member : (⟨.readGeneration u, .ok (some g)⟩ : Exchange) ∈ Moment.own m.history i := by
      rw [show Moment.own m.history i = _ from own]
      simp
    obtain ⟨p, read⟩ := List.mem_iff_getElem?.mp (Moment.mem_own.mp member)
    refine ⟨u, g, p, claimOf_entered u g _, ⟨⟨_, read⟩, ?_⟩, ?_⟩
    · intro q v reply second
      -- The exchanges before the read are all about credentials.
      refine last_position (K := fun e => e.call.isAuthentication = false) own ?_ read second
        rfl rfl
      intro e earlier
      simp [made e earlier]
    · intro below j route q found checks sent begins
      exact visiting_judged others read (claimOf_entered u g _) below found checks sent begins

end Race

/-- A login and a logout of one user, and a visit with the session that either of them has. -/
def lateVisits : Fin 3 → Visit
  | 0 => .numbered 2 "POST" "/accounts/login" "username=ada&password=pw" none
  | 1 => .numbered 3 "GET" "/accounts/logout" "" (some (enteredContent ⟨⟨1⟩⟩ .initial []))
  | 2 => .numbered 4 "GET" "/profiles/ada" "" (some (enteredContent ⟨⟨1⟩⟩ .initial []))

def adaOnly : World :=
  { World.initial with users := (Users.empty.create ⟨⟨⟨1⟩⟩, ada⟩ ⟨"pw"⟩).2 }

/-- The logout has checked its session before the login reads the generation, and moves it on after
that. -/
def lateLogout : Moment (Fin 3) (fun _ => Response) World :=
  visiting plainHasher adaOnly lateVisits [1, 0, 0, 0, 1, 2]

/-- What the session says that a finished visit has set. -/
def claimSet : Outcome Response → Option (Option (Option (UserId × Generation)))
  | .finished response => response.session?.map fun content => (claimOf content).toOption
  | .crashed _ => none

theorem revocation_interleaved_late : ∃ p, ReadsOnce lateLogout.history 0 ⟨⟨1⟩⟩ p ∧
    Judged lateLogout.history ⟨⟨1⟩⟩ p 5
      ((lateVisits 2).verdict? (Moment.own lateLogout.history 2)) ∧
    (lateVisits 2).verdict? (Moment.own lateLogout.history 2) = some (.ok none) := by
  have others : ∀ i, (lateVisits i).route? ≠ some .register := by decide +kernel
  have entry := (revocation_interleaved plainHasher adaOnly lateVisits others
    [1, 0, 0, 0, 1, 2]).2.2 0
  obtain ⟨opened, now, turns, nothing⟩ :
      (lateLogout.outcome? 0).bind claimSet = some (some (some (⟨⟨1⟩⟩, .initial))) ∧
      lateLogout.state.users.generation? ⟨⟨1⟩⟩ = some Generation.initial.next ∧
      (lateLogout.history.drop 3).map (fun entry => (entry.1, entry.2.call)) =
        [(0, .readGeneration ⟨⟨1⟩⟩), (1, .advanceGeneration ⟨⟨1⟩⟩), (2, .readGeneration ⟨⟨1⟩⟩)] ∧
      (Moment.own (lateLogout.history.take 5) 2).isEmpty = true := by
    decide +kernel
  have at_turn : ∀ k turn, [((0 : Fin 3), Call.readGeneration ⟨⟨1⟩⟩), (1, .advanceGeneration ⟨⟨1⟩⟩),
      (2, .readGeneration ⟨⟨1⟩⟩)][k]? = some turn →
      ∃ e, lateLogout.history[3 + k]? = some (turn.1, e) ∧ e.call = turn.2 := by
    intro k turn found
    rw [← turns, List.getElem?_map, List.getElem?_drop] at found
    obtain ⟨⟨who, e⟩, here, rfl⟩ := Option.map_eq_some_iff.mp found
    exact ⟨e, here, rfl⟩
  obtain ⟨outcome, ended, rest⟩ := Option.bind_eq_some_iff.mp opened
  cases outcome with
  | crashed cause => cases rest
  | finished response =>
    obtain ⟨content, sets, named⟩ := Option.map_eq_some_iff.mp rest
    obtain ⟨before, v, g', _, _, rfl⟩ := visiting_point
      (throughout_entry (by decide +kernel)) [1, 0, 0, 0, 1, 2] response content ended sets
    obtain ⟨u, g, p, claim, once, judged⟩ := entry response _ (by decide +kernel) ended sets
    rw [claimOf_entered] at claim named
    cases claim
    cases named
    obtain ⟨⟨c, reply⟩, read, rfl⟩ := at_turn 0 _ rfl
    obtain ⟨advance, moved, advances⟩ := at_turn 1 _ rfl
    obtain ⟨check, checked, _⟩ := at_turn 2 _ rfl
    obtain rfl : 3 = p := once.only 3 _ reply read
    have below : ∀ g, lateLogout.state.users.generation? ⟨⟨1⟩⟩ = some g →
        g.value < Generation.greatest := by
      intro g current
      cases now.symm.trans current
      decide
    have verdict := judged below 2 (.profile "ada") 5 (by decide +kernel) (by decide +kernel) rfl
      ⟨⟨check, checked⟩, List.isEmpty_iff.mp nothing⟩
    exact ⟨3, once, verdict, verdict.revoked 4 (by decide) (by decide) ⟨1, advance, moved, advances⟩⟩

end Http

end Folio
