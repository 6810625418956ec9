import Folio.Proofs.Program.Effect
import Folio.Proofs.Store.Users
import Folio.Proofs.Uuid
import Folio.World

/-!
# Sessions over the world in memory

What a session names, whom it authenticates in a user store, and the effects of checking and opening
sessions. `claimOf_entered` says that a session names the user for whom it was opened.
-/

namespace Folio

theorem Json.lookup_member (name other : String) (value : Json) (rest : List (String × Json)) :
    ((name, value) :: rest).lookup other = if other = name then some value else rest.lookup other := by
  by_cases same : other = name
  · subst same
    simp
  · have different : (other == name) = false := beq_false_of_ne same
    rw [List.lookup_cons, different, if_neg same]

theorem Json.lookup_insertMember (name other : String) (value : Json)
    (members : List (String × Json)) :
    (insertMember name value members).lookup other =
      if other = name then some value else members.lookup other := by
  induction members with
  | nil => exact lookup_member name other value []
  | cons member rest ih =>
    obtain ⟨n, v⟩ := member
    rw [insertMember]
    split
    · rw [lookup_member]
    · split
      · rename_i equal
        have equal : name = n := by simpa using equal
        subst equal
        rw [lookup_member, lookup_member]
        split
        · rfl
        · rfl
      · rename_i different
        have different : name ≠ n := by simpa using different
        rw [lookup_member, lookup_member, ih]
        by_cases here : other = n
        · subst here
          rw [if_pos rfl, if_pos rfl, if_neg (Ne.symm different)]
        · rw [if_neg here, if_neg here]

theorem Json.insertMember_ne_nil (name : String) (value : Json) (members : List (String × Json)) :
    insertMember name value members ≠ [] := by
  cases members with
  | nil => simp [insertMember]
  | cons member rest =>
    rw [insertMember]
    split
    · simp
    · split
      · simp
      · simp

end Folio

namespace Folio.Http

open Program

/-! ### What a session names -/

/-- The content of a session that was opened on top of another one. -/
def enteredContent (id : UserId) (generation : Generation) (content : SessionContent) :
    SessionContent :=
  Json.insertMember generationKey generation.toJson
    (Json.insertMember userIdKey (.str id.render) content)

/-- A session names the user for whom it was opened, whatever it held before. -/
theorem claimOf_entered (id : UserId) (generation : Generation) (content : SessionContent) :
    claimOf (enteredContent id generation content) = .ok (some (id, generation)) := by
  have different : userIdKey ≠ generationKey := by decide
  unfold claimOf enteredContent
  rw [Json.lookup_insertMember, if_neg different, Json.lookup_insertMember, if_pos rfl,
    Json.lookup_insertMember, if_pos rfl]
  simp only [Json.asString, UserId.parse_render, Generation.ofJson_toJson]

/-- The user whom the content of a session authenticates. -/
def authenticated (users : Users) (content : SessionContent) : Option UserId :=
  match claimOf content with
  | .ok (some (id, generation)) => if users.generation? id = some generation then some id else none
  | _ => none

theorem authenticated_generation {users : Users} {content : SessionContent} {id : UserId}
    (valid : authenticated users content = some id) : ∃ g, users.generation? id = some g := by
  unfold authenticated at valid
  split at valid
  · split at valid
    · rename_i current
      cases valid
      exact ⟨_, current⟩
    · cases valid
  · cases valid

/-- What checking a session answers and the session that is left. -/
def checked (trace : Option TraceId) (users : Users) (session : Session) :
    Except Problem (Option UserId) × Session :=
  match claimOf session.content with
  | .error e => (.error (unreadable trace e), session)
  | .ok none => (.ok none, session)
  | .ok (some (id, generation)) =>
    if users.generation? id = some generation then (.ok (some id), session)
    else (.ok none, session.purge)

/-- Whether the content of a session can be read, as any that was opened here can. -/
def Readable (content : SessionContent) : Prop :=
  ∃ claim, claimOf content = .ok claim

theorem checked_readable {users : Users} {session : Session} (trace : Option TraceId)
    (readable : Readable session.content) :
    (checked trace users session).1 = .ok (authenticated users session.content) := by
  obtain ⟨claim, read⟩ := readable
  unfold checked authenticated
  rw [read]
  cases claim with
  | none => rfl
  | some claim =>
    obtain ⟨id, generation⟩ := claim
    dsimp only
    split
    · rfl
    · rfl

theorem checked_some {users : Users} {session : Session} {trace : Option TraceId} {id : UserId} :
    (checked trace users session).1 = .ok (some id) ↔
      authenticated users session.content = some id := by
  unfold checked authenticated
  split
  · rename_i e failed
    simp [failed]
  · rename_i absent
    simp [absent]
  · rename_i named generation read
    rw [read]
    dsimp only
    split
    · simp
    · simp

theorem checked_of_authenticated {users : Users} {session : Session} (trace : Option TraceId)
    {id : UserId} (valid : authenticated users session.content = some id) :
    checked trace users session = (.ok (some id), session) := by
  unfold authenticated at valid
  unfold checked
  split at valid
  · rename_i named generation read
    rw [read]
    dsimp only
    split at valid
    · rename_i current
      cases valid
      rw [if_pos current]
    · cases valid
  · cases valid

/-! ### Effects -/

namespace Handler

variable {σ : Type} {answer : (c : Call) → σ → c.Reply × σ}

/-- The session with a user logged in. -/
def entered (id : UserId) (generation : Generation) (session : Session) : Session :=
  (session.renew.insert userIdKey (.str id.render)).insert generationKey generation.toJson

/-- Whatever a session held and however it came about, logging in leaves the two entries and a new
key; only a purged session stays as it is. -/
theorem entered_eq {session : Session} (active : session.status ≠ .purged) (id : UserId)
    (generation : Generation) :
    entered id generation session =
      ⟨session.presented, enteredContent id generation session.content, .renewed⟩ := by
  obtain ⟨presented, content, status⟩ := session
  cases status with
  | purged => exact (active rfl).elim
  | _ => rfl

/-- Logging in sets the session, whether or not the request came with one. -/
theorem entered_cookie {session : Session} (active : session.status ≠ .purged) (id : UserId)
    (generation : Generation) :
    (entered id generation session).cookie? =
      some (.set (enteredContent id generation session.content)) := by
  have filled : enteredContent id generation session.content ≠ [] :=
    Json.insertMember_ne_nil _ _ _
  rw [entered_eq active]
  unfold Session.cookie?
  cases session.presented with
  | true => rfl
  | false => simp [filled]

theorem effect_logIn (id : UserId) (generation : Generation) (session : Session) (s : σ) :
    effect answer (logIn id generation) session s =
      .quiet (.ok (), entered id generation session) s := by
  unfold logIn
  rw [effect_bind, effect_change, Effect.quiet_andThen]
  dsimp only
  rw [effect_bind, effect_change, Effect.quiet_andThen]
  dsimp only
  rw [effect_change]
  rfl

variable (hasher : Password.Hasher) (salt : List UInt8)

theorem effect_sessionGeneration (trace : Option TraceId) (id : UserId) (w : World) :
    Service.effect (World.answer hasher salt) (Account.sessionGeneration trace id) w =
      .quiet (.ok (w.users.generation? id)) w := rfl

theorem effect_userId (trace : Option TraceId) (session : Session) (w : World) :
    effect (World.answer hasher salt) (userId trace) session w =
      .quiet (checked trace w.users session) w := by
  show Program.effect _ (session.check (Account.loginService trace) trace) w = _
  unfold Session.check checked
  cases claimOf session.content with
  | error e => rfl
  | ok claim =>
    cases claim with
    | none => rfl
    | some claim =>
      obtain ⟨id, generation⟩ := claim
      have asked := effect_sessionGeneration hasher salt trace id w
      unfold Service.effect at asked
      dsimp only
      refine (Program.effect_bind _ (Account.sessionGeneration trace id).run _ w).trans ?_
      rw [asked, Effect.quiet_andThen]
      dsimp only
      split
      · rfl
      · rfl

def loginRequired (trace : Option TraceId) : Problem :=
  ⟨.unauthorized, "login required", trace.map TraceId.render, none, by decide⟩

theorem effect_requireUserId (trace : Option TraceId) (session : Session) (w : World) :
    effect (World.answer hasher salt) (requireUserId trace) session w =
      .quiet
        ((checked trace w.users session).1.bind fun
          | some id => .ok id
          | none => .error (loginRequired trace),
        (checked trace w.users session).2) w := by
  unfold requireUserId
  rw [effect_bind, effect_userId, Effect.quiet_andThen]
  obtain ⟨result, session⟩ := checked trace w.users session
  cases result with
  | error problem => rfl
  | ok id =>
    cases id with
    | some id => rfl
    | none =>
      exact effect_refuse
        (Problem.new_of_visible trace .unauthorized (loginRequired trace).message_visible) session w

end Handler

end Folio.Http
