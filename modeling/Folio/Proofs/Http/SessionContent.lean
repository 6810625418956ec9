import Folio.Proofs.Http.Session
import Folio.Proofs.Json.Text

/-!
# Sessions that come back

What a session names depends on its entries alone (`claimOf_congr`), so the user who was logged in
is named again by any cookie that brings the entries back. `session_round_trip` says so, and that a
cookie of JSON text is one.
-/

namespace Folio.Http

theorem claimOf_congr {one other : SessionContent}
    (same : ∀ key, one.lookup key = other.lookup key) : claimOf one = claimOf other := by
  unfold claimOf
  rw [same userIdKey, same generationKey]

/-- Logging in leaves the other entries of a session alone. -/
theorem lookup_enteredContent {key : String} (notUser : key ≠ userIdKey)
    (notGeneration : key ≠ generationKey) (id : UserId) (generation : Generation)
    (content : SessionContent) :
    (enteredContent id generation content).lookup key = content.lookup key := by
  unfold enteredContent
  rw [Json.lookup_insertMember, if_neg notGeneration, Json.lookup_insertMember, if_neg notUser]

/-! ### Cookies of JSON text -/

/-- The content of a session as JSON text. -/
def textOfContent (content : SessionContent) : String :=
  Json.render (.obj content)

/-- The content of a session from JSON text. -/
def contentOfText? (text : String) : Option SessionContent :=
  match Json.parse? text with
  | some (.obj content) => some content
  | _ => none

theorem contentOfText_textOfContent {content : SessionContent} (exact : Json.Exact (.obj content)) :
    contentOfText? (textOfContent content) = some content := by
  unfold contentOfText? textOfContent
  rw [Json.parse_render exact]

theorem exact_generation (generation : Generation) : Json.Exact generation.toJson := by
  have low : -9223372036854775808 ≤ generation.value := generation.lower
  have high : generation.value ≤ 9223372036854775807 := generation.upper
  exact .int ⟨low, by omega⟩

theorem exact_enteredContent {content : SessionContent} (exact : Json.Exact (.obj content))
    (id : UserId) (generation : Generation) :
    Json.Exact (.obj (enteredContent id generation content)) :=
  (exact.insertMember (.str id.render)).insertMember (exact_generation generation)

/-- Logging in to a session that is not purged asks nobody and does not fail. The session then
names the user and the generation, next to what it held before, and is set as a cookie. Wherever the
cookie is kept, as long as it comes back with the same entries, the session of a later request names
them again; JSON text brings it back if it brings back what the session held before. -/
theorem session_round_trip {σ : Type} (answer : (c : Call) → σ → c.Reply × σ) (s : σ)
    (id : UserId) (generation : Generation) (session : Session)
    (active : session.status ≠ .purged) :
    ∃ (after : Session) (content : SessionContent),
      Handler.effect answer (Handler.logIn id generation) session s =
        .quiet (.ok (), after) s ∧
      claimOf after.content = .ok (some (id, generation)) ∧
      (∀ key, key ≠ userIdKey → key ≠ generationKey → after.get? key = session.get? key) ∧
      after.cookie? = some (.set content) ∧
      (∀ (κ : Type) (save : SessionContent → κ) (load : κ → Option SessionContent)
        (returned : SessionContent),
        load (save content) = some returned →
        (∀ key, returned.lookup key = content.lookup key) →
        claimOf (Session.start (load (save content))).content = .ok (some (id, generation))) ∧
      (Json.Exact (.obj session.content) →
        contentOfText? (textOfContent content) = some content) := by
  have names := claimOf_entered id generation session.content
  refine ⟨Handler.entered id generation session, enteredContent id generation session.content,
    Handler.effect_logIn id generation session s, ?_, ?_,
    Handler.entered_cookie active id generation, ?_, ?_⟩
  · rw [Handler.entered_eq active]
    exact names
  · intro key notUser notGeneration
    rw [Handler.entered_eq active]
    exact lookup_enteredContent notUser notGeneration id generation session.content
  · intro κ save load returned kept same
    rw [kept]
    exact (claimOf_congr same).trans names
  · intro exact
    exact contentOfText_textOfContent (exact_enteredContent exact id generation)

/-- A session that was changed before, of a user in whose place another one logs in. -/
def earlierSession : Session :=
  ⟨true, [("theme", .arr [.null, .str "dark"]), ("user_id", .int 3)], .changed⟩

def lastUser : UserId := ⟨⟨0xffffffffffffffffffffffffffffffff⟩⟩

def leastGeneration : Generation := ⟨Generation.least, by decide, by decide⟩

/-- The last id in the least generation, through a cookie of JSON text. -/
theorem session_round_trip_text :
    ∃ (after : Session) (content : SessionContent),
      Handler.effect (World.answer Password.Hasher.standard [])
        (Handler.logIn lastUser leastGeneration) earlierSession .initial =
          .quiet (.ok (), after) .initial ∧
      claimOf after.content = .ok (some (lastUser, leastGeneration)) ∧
      after.cookie? = some (.set content) ∧
      contentOfText? (textOfContent content) = some content ∧
      claimOf (Session.start (contentOfText? (textOfContent content))).content =
        .ok (some (lastUser, leastGeneration)) := by
  have active : earlierSession.status ≠ .purged := nofun
  have exact : Json.Exact (.obj earlierSession.content) := by
    refine .obj (by decide) ?_
    simp only [earlierSession, List.forall_mem_cons]
    refine ⟨.arr ?_, .int ⟨by decide, by decide⟩, nofun⟩
    simp only [List.forall_mem_cons]
    exact ⟨.null, .str "dark", nofun⟩
  obtain ⟨after, content, ran, names, _, sets, back, text⟩ :=
    session_round_trip (World.answer Password.Hasher.standard []) .initial lastUser leastGeneration
      earlierSession active
  have kept := text exact
  exact ⟨after, content, ran, names, sets, kept,
    back String textOfContent contentOfText? content kept fun _ => rfl⟩

end Folio.Http
