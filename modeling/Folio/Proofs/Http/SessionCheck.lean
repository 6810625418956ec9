import Folio.Proofs.Http.Session
import Folio.Proofs.Json.Decode

/-!
# Checking and ending a session

A login service is anything that answers two questions and may change as it does. For every such
service, what a session holds and what the service answers decide whom the session authenticates,
when it is purged, and when logging out revokes or fails.
-/

namespace Folio

theorem Generation.ofJson_eq_ok_iff {value : Json} {g : Generation} :
    ofJson value = .ok g ↔ value = .int g.value := by
  constructor
  · intro read
    unfold ofJson at read
    cases value with
    | int n =>
      by_cases fits : least ≤ n ∧ n ≤ greatest
      · have counted : (Json.int n).asInt64 = .ok n := if_pos fits
        have known : ofInt? n = some ⟨n, fits.1, fits.2⟩ := dif_pos fits
        rw [counted] at read
        dsimp only [bind, Except.bind] at read
        rw [known] at read
        cases read
        rfl
      · have refused : ∃ e, (Json.int n).asInt64 = .error e := ⟨_, if_neg fits⟩
        obtain ⟨e, refused⟩ := refused
        rw [refused] at read
        cases read
    | _ => cases read
  · rintro rfl
    exact ofJson_toJson g

namespace Http

/-! ### What a session names -/

/-- The content of a session names a user and a generation. -/
def Names (content : SessionContent) (id : UserId) (generation : Generation) : Prop :=
  ∃ raw, content.lookup userIdKey = some (.str raw) ∧ UserId.parse raw = .ok id ∧
    content.lookup generationKey = some (.int generation.value)

/-- The content of a session cannot be read: the id is no text, or beside the id of a user the
generation is no counter. -/
inductive Misread (content : SessionContent) : Json.DecodeError → Prop where
  | user {value : Json} {e : Json.DecodeError} (held : content.lookup userIdKey = some value)
      (failed : value.asString = .error e) : Misread content e
  | generation {raw : String} {id : UserId} {value : Json} {e : Json.DecodeError}
      (held : content.lookup userIdKey = some (.str raw)) (known : UserId.parse raw = .ok id)
      (beside : content.lookup generationKey = some value)
      (failed : Generation.ofJson value = .error e) : Misread content e

/-- Reading a session finds whom it names, or nobody, or fails. -/
theorem claimOf_cases (content : SessionContent) :
    (∃ id g, claimOf content = .ok (some (id, g)) ∧ Names content id g) ∨
      claimOf content = .ok none ∨ ∃ e, claimOf content = .error e ∧ Misread content e := by
  unfold claimOf
  split
  · exact Or.inr (Or.inl rfl)
  · rename_i value held
    split
    · rename_i e failed
      exact Or.inr (Or.inr ⟨e, rfl, .user held failed⟩)
    · rename_i raw text
      rw [Json.asString_eq_ok_iff] at text
      subst text
      split
      · exact Or.inr (Or.inl rfl)
      · rename_i id known
        split
        · exact Or.inr (Or.inl rfl)
        · rename_i counter beside
          split
          · rename_i e failed
            exact Or.inr (Or.inr ⟨e, rfl, .generation held known beside failed⟩)
          · rename_i g read
            rw [Generation.ofJson_eq_ok_iff] at read
            exact Or.inl ⟨id, g, rfl, raw, held, known, by rw [beside, read]⟩

theorem claimOf_of_names {content : SessionContent} {id : UserId} {g : Generation}
    (names : Names content id g) : claimOf content = .ok (some (id, g)) := by
  obtain ⟨raw, held, known, beside⟩ := names
  have read : Generation.ofJson (.int g.value) = .ok g := Generation.ofJson_toJson g
  unfold claimOf
  simp only [held, Json.asString, known, beside, read]

theorem claimOf_of_misread {content : SessionContent} {e : Json.DecodeError}
    (misread : Misread content e) : claimOf content = .error e := by
  unfold claimOf
  cases misread with
  | user held failed => simp only [held, failed]
  | generation held known beside failed =>
    simp only [held, Json.asString, known, beside, failed]

theorem names_iff {content : SessionContent} {id : UserId} {g : Generation} :
    Names content id g ↔ claimOf content = .ok (some (id, g)) := by
  refine ⟨claimOf_of_names, fun claimed => ?_⟩
  rcases claimOf_cases content with ⟨other, h, found, names⟩ | absent | ⟨e, failed, _⟩
  · rw [claimed] at found
    cases found
    exact names
  · rw [claimed] at absent
    cases absent
  · rw [claimed] at failed
    cases failed

theorem misread_iff {content : SessionContent} {e : Json.DecodeError} :
    Misread content e ↔ claimOf content = .error e := by
  refine ⟨claimOf_of_misread, fun claimed => ?_⟩
  rcases claimOf_cases content with ⟨id, g, found, _⟩ | absent | ⟨other, failed, misread⟩
  · rw [claimed] at found
    cases found
  · rw [claimed] at absent
    cases absent
  · rw [claimed] at failed
    cases failed
    exact misread

/-! ### Login services -/

/-- What a login service is asked. -/
inductive Asked where
  | generation (id : UserId)
  | revocation (id : UserId)

/-- The users whose sessions a service was asked to revoke. -/
def revoked (asked : List Asked) : List UserId :=
  asked.filterMap fun
    | .revocation id => some id
    | .generation _ => none

/-- How a login service answers; it may change with every question. -/
structure Logins (σ : Type) where
  generation : UserId → σ → Except Problem (Option Generation) × σ
  revocation : UserId → σ → Except Problem Unit × σ

/-- What a session comes to: an answer or a problem, the session that is left, what the login service
was asked and the state it is left in. -/
structure Upshot (α σ : Type) where
  result : Except Problem α
  session : Session
  asked : List Asked
  state : σ

namespace Logins

variable {σ : Type} (logins : Logins σ)

/-- The service, with a record of what it is asked. -/
def recorded : LoginService (StateM (List Asked × σ)) where
  sessionGeneration id := fun (asked, s) =>
    ((logins.generation id s).1, asked ++ [.generation id], (logins.generation id s).2)
  revokeSessions id := fun (asked, s) =>
    ((logins.revocation id s).1, asked ++ [.revocation id], (logins.revocation id s).2)

def upshot {α : Type} (use : StateM (List Asked × σ) (Except Problem α × Session)) (s : σ) :
    Upshot α σ :=
  let left := use ([], s)
  ⟨left.1.1, left.1.2, left.2.1, left.2.2⟩

/-- A session is checked against the service. -/
def check (trace : Option TraceId) (session : Session) (s : σ) : Upshot (Option UserId) σ :=
  upshot (session.check logins.recorded trace) s

/-- A session is logged out at the service. -/
def logOut (trace : Option TraceId) (session : Session) (s : σ) : Upshot Unit σ :=
  upshot (session.logOut logins.recorded trace) s

theorem check_eq (trace : Option TraceId) (session : Session) (s : σ) :
    logins.check trace session s =
      match claimOf session.content with
      | .error e => ⟨.error (unreadable trace e), session, [], s⟩
      | .ok none => ⟨.ok none, session, [], s⟩
      | .ok (some (id, g)) =>
        match (logins.generation id s).1 with
        | .error problem =>
          ⟨.error problem, session, [.generation id], (logins.generation id s).2⟩
        | .ok current =>
          if current = some g then
            ⟨.ok (some id), session, [.generation id], (logins.generation id s).2⟩
          else ⟨.ok none, session.purge, [.generation id], (logins.generation id s).2⟩ := by
  unfold check Session.check
  cases claimOf session.content with
  | error e => rfl
  | ok claim =>
    cases claim with
    | none => rfl
    | some claim =>
      obtain ⟨id, g⟩ := claim
      simp only [upshot, bind, StateT.bind, recorded]
      cases (logins.generation id s).1 with
      | error problem => rfl
      | ok current =>
        by_cases same : current = some g
        · simp only [if_pos same]
          rfl
        · simp only [if_neg same]
          rfl

section

variable {logins} {trace : Option TraceId} {session : Session} {s : σ} {id : UserId}
  {g : Generation} {problem : Problem}

theorem check_misread {e : Json.DecodeError} (misread : Misread session.content e) :
    logins.check trace session s = ⟨.error (unreadable trace e), session, [], s⟩ := by
  rw [check_eq, misread_iff.mp misread]

theorem check_unanswered (names : Names session.content id g)
    (failed : (logins.generation id s).1 = .error problem) :
    logins.check trace session s =
      ⟨.error problem, session, [.generation id], (logins.generation id s).2⟩ := by
  rw [check_eq, names_iff.mp names]
  simp only [failed]

theorem check_current (names : Names session.content id g)
    (same : (logins.generation id s).1 = .ok (some g)) :
    logins.check trace session s =
      ⟨.ok (some id), session, [.generation id], (logins.generation id s).2⟩ := by
  rw [check_eq, names_iff.mp names]
  simp only [same, if_true]

theorem check_outdated {current : Option Generation} (names : Names session.content id g)
    (answered : (logins.generation id s).1 = .ok current) (other : current ≠ some g) :
    logins.check trace session s =
      ⟨.ok none, session.purge, [.generation id], (logins.generation id s).2⟩ := by
  rw [check_eq, names_iff.mp names]
  simp only [answered, if_neg other]

/-- Everything that the check of a session can come to. -/
inductive Verdict (logins : Logins σ) (trace : Option TraceId) (session : Session) (s : σ) :
    Upshot (Option UserId) σ → Prop where
  | misread {e : Json.DecodeError} (failed : Misread session.content e) :
      Verdict logins trace session s ⟨.error (unreadable trace e), session, [], s⟩
  | unnamed (nobody : ∀ id g, ¬Names session.content id g) :
      Verdict logins trace session s ⟨.ok none, session, [], s⟩
  | unanswered {id : UserId} {g : Generation} {problem : Problem}
      (names : Names session.content id g)
      (failed : (logins.generation id s).1 = .error problem) :
      Verdict logins trace session s
        ⟨.error problem, session, [.generation id], (logins.generation id s).2⟩
  | current {id : UserId} {g : Generation} (names : Names session.content id g)
      (same : (logins.generation id s).1 = .ok (some g)) :
      Verdict logins trace session s
        ⟨.ok (some id), session, [.generation id], (logins.generation id s).2⟩
  | outdated {id : UserId} {g : Generation} {current : Option Generation}
      (names : Names session.content id g) (answered : (logins.generation id s).1 = .ok current)
      (other : current ≠ some g) :
      Verdict logins trace session s
        ⟨.ok none, session.purge, [.generation id], (logins.generation id s).2⟩

theorem verdict (logins : Logins σ) (trace : Option TraceId) (session : Session) (s : σ) :
    Verdict logins trace session s (logins.check trace session s) := by
  rcases claimOf_cases session.content with ⟨id, g, _, names⟩ | absent | ⟨e, _, misread⟩
  · cases answered : (logins.generation id s).1 with
    | error problem =>
      rw [check_unanswered names answered]
      exact .unanswered names answered
    | ok current =>
      by_cases same : current = some g
      · subst same
        rw [check_current names answered]
        exact .current names answered
      · rw [check_outdated names answered same]
        exact .outdated names answered same
  · rw [check_eq, absent]
    refine .unnamed ?_
    intro id g names
    rw [names_iff, absent] at names
    cases names
  · rw [check_misread misread]
    exact .misread misread

end

end Logins

end Http

end Folio
