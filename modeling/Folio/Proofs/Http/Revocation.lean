import Folio.Proofs.Http.Serve
import Folio.Proofs.Http.SessionCheck
import Folio.Proofs.Store.UserHistory

/-!
# What a revocation does to earlier sessions

Revoking the sessions of a user moves the user to the next generation. Below the greatest generation
every session that was opened before is refused from then on; at the greatest generation nothing
happens (`revocation_takes_effect`).
-/

namespace Folio.Http

open Calls

variable {hasher : Password.Hasher} {salt : List UInt8} {w : World} {id : UserId} {g : Generation}

theorem effect_revokeSessions (trace : Option TraceId) :
    Service.effect (World.answer hasher salt) (Account.revokeSessions trace id) w =
      .quiet (.ok ()) { w with users := w.users.advance id } := rfl

/-- A session is refused once its user is in a later generation, whatever is called afterwards but a
creation of a new user under the id. -/
theorem session_refused {content : SessionContent} {earlier : Generation}
    (current : w.users.generation? id = some g) (behind : earlier.value < g.value)
    {calls : List Call} (own : NeverStartsOver hasher salt id w calls)
    (names : Names content id earlier) (other : List UInt8) (trace : Option TraceId) :
    sessionUser hasher other trace (some content)
      (stateAfter (World.answer hasher salt) w calls) = .finished (.ok none) := by
  obtain ⟨later, moved, least⟩ := generation_mono own current
  have different : later ≠ earlier := by
    rintro rfl
    omega
  unfold usersAfter at moved
  rw [sessionUser_claim other trace (names_iff.mp names), moved, if_neg (by simpa using different)]

/-- Revoking the sessions of a user succeeds. Unless the user is in the greatest generation it leads
to one that is none of those before, and every session that was opened in one of those is refused
from then on, as long as nobody is created under the same id. In the greatest generation it leaves
everything as it was. -/
theorem revocation_takes_effect (hasher : Password.Hasher) (salt : List UInt8) (w : World)
    (id : UserId) {earlier : Generation} (opened : w.users.generation? id = some earlier)
    (calls : List Call) (own : NeverStartsOver hasher salt id w calls) :
    ∃ g revoked,
      (usersAfter hasher salt w calls).generation? id = some g ∧
      (∀ trace, Service.effect (World.answer hasher salt) (Account.revokeSessions trace id)
        (stateAfter (World.answer hasher salt) w calls) = .quiet (.ok ()) revoked) ∧
      (g.value < Generation.greatest →
        ∃ later, revoked.users.generation? id = some later ∧ later ≠ g ∧ later ≠ earlier ∧
          ∀ content, Names content id earlier →
            ∀ after, NeverStartsOver hasher salt id revoked after →
              ∀ other trace, sessionUser hasher other trace (some content)
                (stateAfter (World.answer hasher salt) revoked after) = .finished (.ok none)) ∧
      (g.value = Generation.greatest →
        revoked = stateAfter (World.answer hasher salt) w calls) := by
  obtain ⟨g, current, least⟩ := generation_mono own opened
  refine ⟨g, _, current, fun trace => effect_revokeSessions trace, ?_, ?_⟩
  · intro below
    have moved : ((usersAfter hasher salt w calls).advance id).generation? id = some g.next := by
      rw [Users.generation_advance, if_pos rfl, current, Option.map_some]
    have next := Generation.next_value below
    have ahead : earlier.value < g.next.value := by omega
    refine ⟨g.next, moved, ?_, ?_, ?_⟩
    · intro same
      rw [same] at next
      omega
    · intro same
      rw [same] at ahead
      omega
    · intro content names after own other trace
      exact session_refused moved ahead own names other trace
  · intro last
    have still := Users.advance_greatest current last
    unfold usersAfter at still
    rw [still]

def pia : User :=
  ⟨⟨⟨5⟩⟩, ⟨"pia", by decide, by decide, by decide +kernel⟩⟩

/-- A world with one user, in some generation. -/
def worldAt (g : Generation) : World :=
  { World.initial with users :=
      { Users.empty.added pia ⟨"hash"⟩ with generations := ⟨[(pia.id, g)]⟩ } }

def lastGeneration : Generation :=
  ⟨Generation.greatest, Generation.least_le_greatest, Int.le_refl _⟩

def lastButOne : Generation := ⟨Generation.greatest - 1, by decide, by decide⟩

/-- Somebody looks the user up and somebody else registers. -/
def otherCalls : List Call :=
  [.findUsername pia.username, .createUser una ⟨"other"⟩]

/-- The last revocation that there is. -/
theorem revocation_takes_effect_last :
    (worldAt lastButOne).users.generation? pia.id = some lastButOne ∧
      NeverStartsOver .standard [] pia.id (worldAt lastButOne) otherCalls ∧
      ∃ revoked,
        Service.effect (World.answer .standard []) (Account.revokeSessions none pia.id)
          (stateAfter (World.answer .standard []) (worldAt lastButOne) otherCalls) =
            .quiet (.ok ()) revoked ∧
        sessionUser .standard [] none (some (enteredContent pia.id lastButOne [])) revoked =
          .finished (.ok none) := by
  have own : NeverStartsOver .standard [] pia.id (worldAt lastButOne) otherCalls := by
    unfold NeverStartsOver otherCalls
    simp only [along_cons, along_nil, Call.StartsOver, and_true, not_false_eq_true, true_and]
    rintro ⟨same, _⟩
    exact absurd same (by decide)
  obtain ⟨g, revoked, current, revokes, effective, _⟩ :=
    revocation_takes_effect .standard [] (worldAt lastButOne) pia.id rfl otherCalls own
  obtain rfl : lastButOne = g := Option.some.inj current
  obtain ⟨_, _, _, _, refused⟩ := effective (by decide)
  have names : Names (enteredContent pia.id lastButOne []) pia.id lastButOne :=
    names_iff.mpr (claimOf_entered _ _ _)
  exact ⟨rfl, own, revoked, revokes none, refused _ names [] along_nil [] none⟩

/-- In the greatest generation a revocation succeeds, and the session of before stays accepted. -/
theorem greatest_generation_stays :
    Service.effect (World.answer .standard []) (Account.revokeSessions none pia.id)
        (worldAt lastGeneration) = .quiet (.ok ()) (worldAt lastGeneration) ∧
      sessionUser .standard [] none (some (enteredContent pia.id lastGeneration []))
        (worldAt lastGeneration) = .finished (.ok (some pia.id)) := by
  have current : (worldAt lastGeneration).users.generation? pia.id = some lastGeneration := rfl
  constructor
  · rw [effect_revokeSessions, Users.advance_greatest current rfl]
  · rw [sessionUser_entered, if_pos current]

end Folio.Http
