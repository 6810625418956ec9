import Folio.Proofs.Http.Alike
import Folio.Proofs.Http.Reach
import Folio.Proofs.Store.Documents

/-!
# Privacy of documents

Two runs over worlds that differ in private documents of one user only are the same to everybody
else, as long as that user does not visit.
-/

namespace Folio.Http

open Program

variable {hasher : Password.Hasher} {visit : Visit} {visits : List Visit} {w₁ w₂ : World}
  {owner : UserId}

/-- Two worlds that are equal except for private documents of a user. -/
structure EqualBut (owner : UserId) (w₁ w₂ : World) : Prop extends Alike w₁ w₂ where
  dispatcher : w₁.dispatcher = w₂.dispatcher
  documents : w₁.documents.shown owner = w₂.documents.shown owner

/-- No visit of a run has a session that authenticates a user at its time. -/
def NeverVisits (hasher : Password.Hasher) (w : World) (visits : List Visit) (id : UserId) :
    Prop :=
  ∀ (i : Nat) (visit : Visit), visits[i]? = some visit →
    ¬visit.IsBy hasher (worldBefore hasher w visits i) id

theorem sameListing_of_equalBut (equal : EqualBut owner w₁ w₂)
    (stranger : ¬visit.IsBy hasher w₁ owner) : SameListing visit w₁ w₂ := by
  intro other viewer valid
  refine Documents.list_eq_of_shown equal.documents ?_
  intro own
  have valid : (checked visit.trace w₁.users (.start visit.request.session)).1 =
      .ok (some owner) := valid.trans (congrArg Except.ok own)
  exact stranger (isBy_iff.mpr (checked_some.mp valid))

/-- One visit of a stranger: the same answer and announcements, and worlds that differ no more. -/
theorem serve_equalBut (equal : EqualBut owner w₁ w₂) (stranger : ¬visit.IsBy hasher w₁ owner) :
    (serve hasher visit w₁).outcome = (serve hasher visit w₂).outcome ∧
      (serve hasher visit w₁).events = (serve hasher visit w₂).events ∧
      EqualBut owner (serve hasher visit w₁).state (serve hasher visit w₂).state := by
  -- Neither run touches documents, so what is shown of them stays the same.
  have same := serve_alike hasher equal.toAlike (sameListing_of_equalBut equal stranger)
  obtain ⟨_, _, step₁⟩ := serve_cases hasher visit w₁
  obtain ⟨_, _, step₂⟩ := serve_cases hasher visit w₂
  obtain ⟨documents₁, dispatcher₁⟩ := step_fixed step₁
  obtain ⟨documents₂, dispatcher₂⟩ := step_fixed step₂
  refine ⟨same.outcome, same.events, same.state, ?_, ?_⟩
  · rw [dispatcher₁, dispatcher₂, equal.dispatcher]
  · rw [documents₁, documents₂, equal.documents]

theorem run_equalBut (equal : EqualBut owner w₁ w₂)
    (absent : NeverVisits hasher w₁ visits owner) (i : Nat) :
    EqualBut owner (worldBefore hasher w₁ visits i) (worldBefore hasher w₂ visits i) := by
  induction i with
  | zero => exact equal
  | succ i ih =>
    cases here : visits[i]? with
    | none =>
      rw [worldBefore_past here, worldBefore_past here]
      exact ih
    | some visit =>
      rw [worldBefore_succ here, worldBefore_succ here]
      exact (serve_equalBut ih (absent i visit here)).2.2

/-- Private documents do not show to anybody but their owner, at no point of any run. -/
theorem private_documents_unseen (hasher : Password.Hasher) (owner : UserId)
    (equal : EqualBut owner w₁ w₂) (visits : List Visit)
    (absent : NeverVisits hasher w₁ visits owner) {i : Nat} (here : visits[i]? = some visit) :
    (∃ response,
      (serve hasher visit (worldBefore hasher w₁ visits i)).outcome = .finished response ∧
      (serve hasher visit (worldBefore hasher w₂ visits i)).outcome = .finished response) ∧
    (serve hasher visit (worldBefore hasher w₁ visits i)).events =
      (serve hasher visit (worldBefore hasher w₂ visits i)).events ∧
    (worldBefore hasher w₁ visits (i + 1)).users = (worldBefore hasher w₂ visits (i + 1)).users ∧
    (worldBefore hasher w₁ visits (i + 1)).follows =
      (worldBefore hasher w₂ visits (i + 1)).follows := by
  have before := run_equalBut equal absent i
  have after := run_equalBut equal absent (i + 1)
  obtain ⟨outcome, events, _⟩ := serve_equalBut before (absent i visit here)
  obtain ⟨response, answered, _⟩ := serve_cases hasher visit (worldBefore hasher w₁ visits i)
  exact ⟨⟨response, answered, outcome ▸ answered⟩, events, after.users, after.follows⟩

def diary : Document where
  id := ⟨7⟩
  owner := ⟨⟨1⟩⟩
  title := "diary"
  isPublic := false
  createdAt := ⟨⟨2024, 2, 29⟩, 12, 0, 0, 0, by decide, by decide, by decide, by decide, by decide⟩

def profileVisits : List Visit :=
  [registerAda,
   .numbered 2 "GET" "/profiles/ada" "" none]

theorem private_documents_unseen_anonymous : ∃ response,
    (serve plainHasher (.numbered 2 "GET" "/profiles/ada" "" none)
      (worldBefore plainHasher (emptyWorld .initial) profileVisits 1)).outcome =
        .finished response ∧
    (serve plainHasher (.numbered 2 "GET" "/profiles/ada" "" none)
      (worldBefore plainHasher ⟨.empty, .empty, ⟨[diary]⟩, .initial⟩ profileVisits 1)).outcome =
        .finished response := by
  have equal : EqualBut ⟨⟨1⟩⟩ (emptyWorld .initial) ⟨.empty, .empty, ⟨[diary]⟩, .initial⟩ :=
    ⟨⟨rfl, rfl⟩, rfl, by decide +kernel⟩
  have absent : NeverVisits plainHasher (emptyWorld .initial) profileVisits ⟨⟨1⟩⟩ := by
    intro i visit here
    have anonymous : ∀ visit ∈ profileVisits, visit.request.session = none := by
      simp [profileVisits, registerAda, Visit.numbered]
    exact not_isBy_of_anonymous (anonymous visit (List.mem_of_getElem? here)) _
  exact (private_documents_unseen plainHasher ⟨⟨1⟩⟩ equal profileVisits absent (i := 1) rfl).1

end Folio.Http
