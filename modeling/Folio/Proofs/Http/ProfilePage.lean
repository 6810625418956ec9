import Folio.Proofs.Http.FollowLog
import Folio.Proofs.Store.Documents

/-!
# What a profile page shows

In every world that visits lead to while documents come in, a profile page is found exactly when a
stored user has the username in the path, and it shows the documents that the visitor may see, in
order, and how the visitor stands to the user.
-/

namespace Folio.Http

open Program

variable {hasher : Password.Hasher} {w : World} {visit : Visit} {sessions : List SessionContent}

/-! ### Worlds with documents -/

/-- The worlds that visits lead to while documents come in, with the sessions set on the way. The
id that is made for a visit is not one of a stored user. -/
inductive Reached (hasher : Password.Hasher) : List SessionContent → World → Prop where
  | start (dispatcher : Dispatcher) : Reached hasher [] (emptyWorld dispatcher)
  | visited {sessions : List SessionContent} {w : World} (visit : Visit)
      (new : w.users.find? visit.context.freshId = none) :
      Reached hasher sessions w →
        Reached hasher ((issued hasher visit w).toList ++ sessions) (serve hasher visit w).state
  | filed {sessions : List SessionContent} {w : World} (document : Document) :
      Reached hasher sessions w →
        Reached hasher sessions { w with documents := w.documents.insert document }

theorem reached_sound (reached : Reached hasher sessions w) :
    Users.Sound (fun id => w.users.find? id ≠ none) w.users := by
  induction reached with
  | start dispatcher => exact Users.empty_sound
  | @visited sessions w visit new _ sound =>
    obtain ⟨_, _, step⟩ := serve_cases hasher visit w
    exact Users.sound_stored (step_sound sound (not_not_intro new) step)
  | filed document _ sound => exact sound

theorem reached_readable (reached : Reached hasher sessions w) {content : SessionContent}
    (set : content ∈ sessions) : Readable content := by
  induction reached with
  | start dispatcher => cases set
  | @visited sessions w visit new _ ih =>
    rcases List.mem_append.mp set with here | earlier
    · exact readable_of_issued (Option.mem_toList.mp here)
    · exact ih earlier
  | filed document _ ih => exact ih set

/-! ### The address of a profile -/

theorem Route.profileSegment_append {raw : String} (filled : raw ≠ "") (whole : '/' ∉ raw.toList) :
    profileSegment? ("/profiles/" ++ raw) = some (Text.percentDecodeText raw) := by
  unfold profileSegment?
  simp [String.toList_append, filled, whole]

theorem Route.find_profile {path segment : String} (read : profileSegment? path = some segment) :
    find? "GET" path = some (.profile segment) := by
  -- None of the addresses that are tried before is one of a profile.
  have fixed : ∀ other ∈ ["/accounts/register", "/accounts/login", "/accounts/logout",
      "/health/ready", "/health/live", "/api-docs/openapi.json"], profileSegment? other = none := by
    decide +kernel
  simp only [List.forall_mem_cons] at fixed
  unfold find?
  split <;> simp_all

/-! ### The page -/

/-- The documents of a user that a viewer may see, in the order in which they came in. -/
def visibleDocuments (w : World) (user : User) (viewer : Option UserId) : List Document :=
  w.documents.items.filter fun document =>
    document.owner = user.id ∧ (document.isPublic = true ∨ viewer = some user.id)

/-- What the page of a user has to show to a viewer. -/
structure IsPage (w : World) (user : User) (viewer : Option UserId) (page : ProfilePage) :
    Prop where
  profile : page.profile = user
  documents : page.documents.Perm (visibleDocuments w user viewer)
  newestFirst : Documents.NewestFirst page.documents
  ties : ∀ t, page.documents.filter (fun document => document.createdAt = t) =
    (visibleDocuments w user viewer).filter (fun document => document.createdAt = t)
  isFollowed : page.isFollowed = true ↔
    ∃ id, viewer = some id ∧ (⟨id, user.id⟩ : FollowEdge) ∈ w.follows.edgeSet
  canFollow : page.canFollow = true ↔ ∃ id, viewer = some id ∧ id ≠ user.id

theorem filter_matches (w : World) (user : User) (viewer : Option UserId) :
    w.documents.items.filter (DocumentQuery.matches ⟨user.id, viewer⟩) =
      visibleDocuments w user viewer := by
  refine List.filter_congr ?_
  intro document _
  rw [Bool.eq_iff_iff, DocumentQuery.matches_iff, decide_eq_true_eq]

theorem pageOf_isPage (w : World) (user : User) (viewer : Option UserId) :
    IsPage w user viewer (Profile.pageOf w user viewer) where
  profile := rfl
  documents := by
    rw [← filter_matches]
    exact Documents.list_perm _ _
  newestFirst := Documents.list_newestFirst _ _
  ties := by
    intro t
    rw [← filter_matches]
    exact Documents.list_filter_instant _ _ t
  isFollowed := by simp [Profile.pageOf, Follows.mem_edgeSet, Option.any_eq_true]
  canFollow := by simp [Profile.pageOf, Option.any_eq_true]

/-- Without ties there is one order in which a page can show its documents. -/
theorem IsPage.documents_eq {user : User} {viewer : Option UserId} {page : ProfilePage}
    {documents : List Document} (shows : IsPage w user viewer page)
    (visible : documents.Perm (visibleDocuments w user viewer))
    (newest : Documents.NewestFirst documents)
    (distinct : (documents.map (·.createdAt)).Nodup) : page.documents = documents :=
  Documents.eq_of_newestFirst (shows.documents.trans visible.symm) shows.newestFirst newest distinct

theorem IsPage.canFollow_own {user : User} {page : ProfilePage}
    (shows : IsPage w user (some user.id) page) : page.canFollow = false := by
  rw [Bool.eq_false_iff, ne_eq, shows.canFollow]
  rintro ⟨id, same, other⟩
  exact other (Option.some.inj same).symm

/-- The stored user whose username is a text. -/
def userNamed? (users : Users) (text : String) : Option User :=
  (Username.verbatim? text).bind users.findUsername?

theorem userNamed_iff {known : UserId → Prop} {users : Users} (sound : Users.Sound known users)
    {text : String} {user : User} : userNamed? users text = some user ↔ users.Has text user := by
  rw [Users.has_iff sound]
  exact Option.bind_eq_some_iff

/-- A profile that is looked at with a session that can be read is shown as the session's user sees
it, or nobody has the username. -/
theorem serve_profile (hasher : Password.Hasher) (w : World) {segment : String}
    (route : visit.route? = some (.profile segment)) (readable : Readable visit.content) :
    ∃ session, (serve hasher visit w).effect =
      .quiet (answered visit.context
        (match userNamed? w.users segment with
        | some user =>
          .ok (.ok (Profile.pageOf w user (authenticated w.users visit.content)).toJson)
        | none => .error (Profile.unknownUser visit.trace segment), session)) w := by
  have effect := serve_effect hasher w route
  rw [show App.handle visit.context visit.request (.profile segment) =
    Handler.profile visit.trace segment from rfl, Handler.effect_profile] at effect
  unfold userNamed?
  cases read : Username.verbatim? segment with
  | none =>
    rw [read] at effect
    exact ⟨_, effect⟩
  | some name =>
    have viewer : (checked visit.trace w.users (.start visit.request.session)).1 =
        .ok (authenticated w.users visit.content) := checked_readable visit.trace readable
    obtain rfl := Username.verbatim_eq_some.mp read
    rw [read] at effect
    dsimp only at effect
    generalize checked visit.trace w.users (.start visit.request.session) = result at effect viewer
    obtain ⟨answer, session⟩ := result
    obtain rfl : answer = .ok (authenticated w.users visit.content) := viewer
    refine ⟨session, ?_⟩
    dsimp only [Option.bind] at effect ⊢
    cases found : w.users.findUsername? name with
    | none =>
      rw [found] at effect
      exact effect
    | some user =>
      rw [found] at effect
      exact effect

/-- A profile page is not found exactly when no stored user has the username that the last part of
the path spells. Otherwise it shows that user as whoever the session authenticates may see it: the
body has the user as its profile, the visible documents with all their fields, whether the visitor
follows the user and whether the visitor can, and no other members. -/
theorem profile_page_exact (reached : Reached hasher sessions w) (visit : Visit) (raw : String)
    (get : visit.request.method = "GET")
    (path : visit.request.routePath = "/profiles/" ++ raw) (filled : raw ≠ "")
    (whole : '/' ∉ raw.toList)
    (genuine : ∀ content, visit.request.session = some content → content ∈ sessions) :
    ∃ response viewer, (serve hasher visit w).outcome = .finished response ∧
      (∀ id, viewer = some id ↔ visit.IsBy hasher w id) ∧
      (response.status = 404 ↔ ¬∃ user, w.users.Has (Text.percentDecodeText raw) user) ∧
      ∀ user, w.users.Has (Text.percentDecodeText raw) user →
        response.status = 200 ∧ ∃ page, IsPage w user viewer page ∧
          response.body = .json (.obj [
            ("canFollow", .bool page.canFollow),
            ("documents", .arr (page.documents.map fun document => .obj [
              ("createdAt", .str document.createdAt.render),
              ("id", .str document.id.render),
              ("isPublic", .bool document.isPublic),
              ("title", .str document.title),
              ("userId", .str document.owner.uuid.render)])),
            ("isFollowed", .bool page.isFollowed),
            ("profile", .obj [
              ("id", .str user.id.uuid.render),
              ("username", .str user.username.text)])]) := by
  have sound := reached_sound reached
  have readable : Readable visit.content := by
    unfold Visit.content
    cases came : visit.request.session with
    | none => exact ⟨none, rfl⟩
    | some content => exact reached_readable reached (genuine content came)
  have route : visit.route? = some (.profile (Text.percentDecodeText raw)) := by
    unfold Visit.route?
    rw [get, path]
    exact Route.find_profile (Route.profileSegment_append filled whole)
  obtain ⟨session, effect⟩ := serve_profile hasher w route readable
  refine ⟨_, authenticated w.users visit.content, (Run.effect_eq effect).1,
    fun id => isBy_iff.symm, ?_⟩
  cases named : userNamed? w.users (Text.percentDecodeText raw) with
  | none =>
    have nobody : ∀ user, ¬w.users.Has (Text.percentDecodeText raw) user := by
      intro user stored
      rw [(userNamed_iff sound).mpr stored] at named
      cases named
    refine ⟨?_, fun user stored => (nobody user stored).elim⟩
    exact ⟨fun _ ⟨user, stored⟩ => nobody user stored,
      fun _ => answered_problem_status session rfl⟩
  | some user =>
    have stored := (userNamed_iff sound).mp named
    constructor
    · constructor
      · intro missing
        cases missing
      · intro nobody
        exact (nobody ⟨user, stored⟩).elim
    · intro other same
      obtain rfl : user = other :=
        Option.some.inj (named.symm.trans ((userNamed_iff sound).mpr same))
      exact ⟨rfl, _, pageOf_isPage w user _, rfl⟩

/-- A private document of the last second before a leap second. -/
def draft : Document where
  id := ⟨7⟩
  owner := ⟨⟨1⟩⟩
  title := "draft"
  isPublic := false
  createdAt := ⟨⟨2016, 12, 31⟩, 23, 59, 59, 999999999, by decide, by decide, by decide, by decide,
    by decide⟩

/-- A public document of the leap second. -/
def essay : Document where
  id := ⟨8⟩
  owner := ⟨⟨1⟩⟩
  title := "essay"
  isPublic := true
  createdAt := ⟨⟨2016, 12, 31⟩, 23, 59, 60, 500000000, by decide, by decide, by decide, by decide,
    by decide⟩

/-- Somebody has registered, and two documents have come in. -/
def desk : World :=
  let w := (serve plainHasher registerAda (emptyWorld .initial)).state
  { w with documents := (w.documents.insert draft).insert essay }

theorem profile_page_exact_own : ∃ content response,
    issued plainHasher registerAda (emptyWorld .initial) = some content ∧
      (serve plainHasher (.numbered 2 "GET" "/profiles/%61da" "" (some content)) desk).outcome =
        .finished response ∧
      response.status = 200 ∧
      response.body = .json (.obj [
        ("canFollow", .bool false),
        ("documents", .arr [
          .obj [
            ("createdAt", .str "2016-12-31T23:59:60.500Z"),
            ("id", .str "00000000-0000-0000-0000-000000000008"),
            ("isPublic", .bool true),
            ("title", .str "essay"),
            ("userId", .str "00000000-0000-0000-0000-000000000001")],
          .obj [
            ("createdAt", .str "2016-12-31T23:59:59.999999999Z"),
            ("id", .str "00000000-0000-0000-0000-000000000007"),
            ("isPublic", .bool false),
            ("title", .str "draft"),
            ("userId", .str "00000000-0000-0000-0000-000000000001")]]),
        ("isFollowed", .bool false),
        ("profile", .obj [
          ("id", .str "00000000-0000-0000-0000-000000000001"),
          ("username", .str "ada")])]) := by
  obtain ⟨opened, known, shown⟩ : (issued plainHasher registerAda (emptyWorld .initial)).map
        (authenticated desk.users) = some (some ⟨⟨1⟩⟩) ∧
      desk.users.find? ⟨⟨1⟩⟩ = some ⟨⟨⟨1⟩⟩, ada⟩ ∧
      visibleDocuments desk ⟨⟨⟨1⟩⟩, ada⟩ (some ⟨⟨1⟩⟩) = [draft, essay] := by
    decide +kernel
  obtain ⟨content, sets, valid⟩ := Option.map_eq_some_iff.mp opened
  have path : (Visit.numbered 2 "GET" "/profiles/%61da" "" none).request.routePath =
      "/profiles/" ++ "ada" := by
    decide +kernel
  have reached : Reached plainHasher ((issued plainHasher registerAda (emptyWorld .initial)).toList
      ++ []) desk :=
    .filed essay (.filed draft (.visited registerAda rfl (.start .initial)))
  obtain ⟨response, viewer, answered, by_user, _, found⟩ := profile_page_exact reached
    (.numbered 2 "GET" "/profiles/%61da" "" (some content)) "ada" rfl path (by decide) (by decide)
    (by
      intro other came
      cases came
      simp [sets])
  obtain rfl := (by_user ⟨⟨1⟩⟩).mpr (isBy_iff.mpr valid)
  have named : desk.users.Has (Text.percentDecodeText "ada") ⟨⟨⟨1⟩⟩, ada⟩ :=
    ⟨known, by decide +kernel⟩
  obtain ⟨ok, page, shows, body⟩ := found _ named
  have later : Documents.NewestFirst [essay, draft] :=
    List.pairwise_pair.mpr (Documents.newerFirst_iff.mp (by decide +kernel))
  have listed : page.documents = [essay, draft] :=
    shows.documents_eq (shown ▸ .swap draft essay []) later (by decide +kernel)
  have alone : page.isFollowed = false := by
    rw [Bool.eq_false_iff, ne_eq, shows.isFollowed]
    rintro ⟨id, same, follows⟩
    cases same
    rw [Follows.mem_edgeSet] at follows
    revert follows
    decide +kernel
  have texts : essay.createdAt.render = "2016-12-31T23:59:60.500Z" ∧
      draft.createdAt.render = "2016-12-31T23:59:59.999999999Z" ∧
      essay.id.render = "00000000-0000-0000-0000-000000000008" ∧
      draft.id.render = "00000000-0000-0000-0000-000000000007" ∧
      (⟨1⟩ : Uuid).render = "00000000-0000-0000-0000-000000000001" := by
    decide +kernel
  obtain ⟨essay_time, draft_time, essay_id, draft_id, user_id⟩ := texts
  rw [listed, shows.canFollow_own, alone] at body
  refine ⟨content, response, sets, answered, ok, body.trans ?_⟩
  rw [← essay_time, ← draft_time, ← essay_id, ← draft_id, ← user_id]
  rfl

end Folio.Http
