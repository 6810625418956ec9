import Folio.Program

/-!
# Calls one after the other

A list of calls that are answered one after the other over one state. `exchanges_eq` compares two
ways to answer them: what relates the states of both and is kept by every call makes all replies
equal.
-/

namespace Folio.Calls

variable {σ τ : Type} {answer : (c : Call) → σ → c.Reply × σ} {allowed : Call → σ → Prop} {s : σ}

/-- The state after calls. -/
def stateAfter (answer : (c : Call) → σ → c.Reply × σ) (s : σ) (calls : List Call) : σ :=
  calls.foldl (fun s c => (answer c s).2) s

/-- Calls with their replies. -/
def exchanges (answer : (c : Call) → σ → c.Reply × σ) : σ → List Call → List Exchange
  | _, [] => []
  | s, c :: rest => ⟨c, (answer c s).1⟩ :: exchanges answer (answer c s).2 rest

theorem stateAfter_append (before after : List Call) :
    stateAfter answer s (before ++ after) = stateAfter answer (stateAfter answer s before) after :=
  List.foldl_append

/-- Every call is allowed in the state that it meets. -/
def Along (answer : (c : Call) → σ → c.Reply × σ) (allowed : Call → σ → Prop) (s : σ)
    (calls : List Call) : Prop :=
  ∀ before c after, calls = before ++ c :: after → allowed c (stateAfter answer s before)

theorem along_append {before after : List Call} (along : Along answer allowed s (before ++ after)) :
    Along answer allowed s before ∧ Along answer allowed (stateAfter answer s before) after := by
  constructor
  · rintro first c rest rfl
    exact along first c (rest ++ after) (by simp)
  · rintro first c rest rfl
    rw [← stateAfter_append]
    exact along (before ++ first) c rest (by simp)

theorem along_nil : Along answer allowed s [] := by
  intro before c after split
  simp at split

theorem along_cons {c : Call} {rest : List Call} :
    Along answer allowed s (c :: rest) ↔
      allowed c s ∧ Along answer allowed (answer c s).2 rest := by
  constructor
  · intro along
    obtain ⟨first, later⟩ := along_append (show Along answer allowed s ([c] ++ rest) from along)
    exact ⟨first [] c [] rfl, later⟩
  · rintro ⟨here, later⟩ before d after split
    cases before with
    | nil =>
      cases split
      exact here
    | cons first before =>
      cases split
      exact later before d after rfl

/-- What every allowed call keeps holds after calls that are all allowed. -/
theorem along_induction {P : σ → Prop} {calls : List Call} (start : P s)
    (step : ∀ c s, allowed c s → P s → P (answer c s).2)
    (along : Along answer allowed s calls) : P (stateAfter answer s calls) := by
  induction calls generalizing s with
  | nil => exact start
  | cons c rest ih =>
    obtain ⟨here, later⟩ := along_cons.mp along
    exact ih (step c s here start) later

theorem exchanges_eq {other : (c : Call) → τ → c.Reply × τ} {t : τ} {calls : List Call}
    (related : σ → τ → Prop) (start : related s t)
    (step : ∀ c s t, allowed c s → related s t →
      (answer c s).1 = (other c t).1 ∧ related (answer c s).2 (other c t).2)
    (along : Along answer allowed s calls) :
    exchanges answer s calls = exchanges other t calls := by
  induction calls generalizing s t with
  | nil => rfl
  | cons c rest ih =>
    obtain ⟨here, later⟩ := along_cons.mp along
    obtain ⟨same, after⟩ := step c s t here start
    rw [exchanges, exchanges, same, ih after later]

end Folio.Calls
