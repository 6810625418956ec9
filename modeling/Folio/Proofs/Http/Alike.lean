import Folio.Proofs.Http.Serve

/-!
# Worlds that answer alike

Two worlds with the same users and edges answer a visit alike, provided that the visitor is listed
the same documents in both. Nothing else of a world shows, and the worlds stay alike.
-/

namespace Folio.Http

open Program

/-- Two worlds with the same users and edges. -/
structure Alike (w₁ w₂ : World) : Prop where
  users : w₁.users = w₂.users
  follows : w₁.follows = w₂.follows

/-- Two runs that end and announce the same, and leave worlds that are alike. -/
structure SameEffect {α : Type} (e₁ e₂ : Effect α World) : Prop where
  outcome : e₁.outcome = e₂.outcome
  events : e₁.events = e₂.events
  state : Alike e₁.state e₂.state

/-- The visitor is listed the same documents in two worlds. -/
def SameListing (visit : Visit) (w₁ w₂ : World) : Prop :=
  ∀ owner viewer, (checked visit.trace w₁.users (.start visit.request.session)).1 = .ok viewer →
    w₁.documents.list ⟨owner, viewer⟩ = w₂.documents.list ⟨owner, viewer⟩

variable {hasher : Password.Hasher} {visit : Visit} {w₁ w₂ : World}

theorem sameEffect_quiet {α : Type} (a : α) (alike : Alike w₁ w₂) :
    SameEffect (.quiet a w₁) (.quiet a w₂) :=
  ⟨rfl, rfl, alike⟩

theorem sameEffect_answered {context : Context}
    {e₁ e₂ : Effect (Except Problem Response × Session) World} (same : SameEffect e₁ e₂) :
    SameEffect (e₁.andThen fun result w => .quiet (answered context result) w)
      (e₂.andThen fun result w => .quiet (answered context result) w) := by
  obtain ⟨outcome₁, events₁, state₁⟩ := e₁
  obtain ⟨outcome₂, events₂, state₂⟩ := e₂
  obtain ⟨outcome, events, state⟩ := same
  cases outcome
  cases events
  cases outcome₁ with
  | finished result => exact ⟨rfl, rfl, state⟩
  | crashed cause => exact ⟨rfl, rfl, state⟩

/-! ### Handlers -/

theorem alike_register (alike : Alike w₁ w₂) (form : List (String × String)) (session : Session) :
    SameEffect
      (Handler.effect (World.answer hasher visit.salt)
        (Handler.register visit.trace visit.context.freshId form) session w₁)
      (Handler.effect (World.answer hasher visit.salt)
        (Handler.register visit.trace visit.context.freshId form) session w₂) := by
  rw [Handler.effect_register, Handler.effect_register, alike.users]
  cases Registration.ofFields (field form "username") (field form "password1")
      (field form "password2") with
  | error errors => exact sameEffect_quiet _ alike
  | ok registration =>
    dsimp only
    obtain ⟨result, users⟩ := Account.registered hasher visit.salt w₂.users visit.trace
      visit.context.freshId registration
    cases result with
    | error problem => exact ⟨rfl, rfl, rfl, alike.follows⟩
    | ok user => exact ⟨rfl, rfl, rfl, alike.follows⟩

theorem alike_logout (alike : Alike w₁ w₂) (session : Session) :
    SameEffect
      (Handler.effect (World.answer hasher visit.salt) (Handler.logout visit.trace) session w₁)
      (Handler.effect (World.answer hasher visit.salt) (Handler.logout visit.trace) session w₂) := by
  rw [Handler.effect_logout, Handler.effect_logout, alike.users]
  split
  · exact ⟨rfl, rfl, rfl, alike.follows⟩
  · exact sameEffect_quiet _ alike
  · exact sameEffect_quiet _ alike

/-- The page of a profile is the only one that shows documents. -/
theorem alike_profile (alike : Alike w₁ w₂) (listing : SameListing visit w₁ w₂)
    (segment : String) :
    SameEffect
      (Handler.effect (World.answer hasher visit.salt) (Handler.profile visit.trace segment)
        (.start visit.request.session) w₁)
      (Handler.effect (World.answer hasher visit.salt) (Handler.profile visit.trace segment)
        (.start visit.request.session) w₂) := by
  rw [Handler.effect_profile, Handler.effect_profile]
  cases Username.verbatim? segment with
  | none => exact sameEffect_quiet _ alike
  | some name =>
    dsimp only
    unfold SameListing at listing
    rw [alike.users] at listing ⊢
    generalize checked visit.trace w₂.users (.start visit.request.session) = result at listing ⊢
    obtain ⟨result, session⟩ := result
    cases result with
    | error problem => exact sameEffect_quiet _ alike
    | ok viewer =>
      dsimp only
      cases w₂.users.findUsername? name with
      | none => exact sameEffect_quiet _ alike
      | some user =>
        have page : Profile.pageOf w₁ user viewer = Profile.pageOf w₂ user viewer := by
          unfold Profile.pageOf
          rw [listing user.id viewer rfl, alike.follows]
        dsimp only
        rw [page]
        exact sameEffect_quiet _ alike

theorem alike_addressed (alike : Alike w₁ w₂) (segment : String) (session : Session)
    {act₁ act₂ : User → User → Session → Effect (Except Problem Response × Session) World}
    (acts : ∀ follower following session,
      SameEffect (act₁ follower following session) (act₂ follower following session)) :
    SameEffect (Handler.addressed visit.trace segment session w₁ act₁)
      (Handler.addressed visit.trace segment session w₂ act₂) := by
  unfold Handler.addressed
  rw [alike.users]
  split
  · exact sameEffect_quiet _ alike
  · exact sameEffect_quiet _ alike
  · split
    · exact sameEffect_quiet _ alike
    · split
      · exact sameEffect_quiet _ alike
      · exact sameEffect_quiet _ alike
      · exact acts _ _ _

theorem alike_follow (alike : Alike w₁ w₂) (segment : String) (session : Session) :
    SameEffect
      (Handler.effect (World.answer hasher visit.salt) (Handler.follow visit.trace segment)
        session w₁)
      (Handler.effect (World.answer hasher visit.salt) (Handler.follow visit.trace segment)
        session w₂) := by
  rw [Handler.effect_follow, Handler.effect_follow]
  refine alike_addressed alike segment session ?_
  intro follower following session
  unfold Handler.followed
  rw [alike.follows]
  split
  · exact sameEffect_quiet _ alike
  · exact ⟨rfl, rfl, alike.users, rfl⟩

theorem alike_unfollow (alike : Alike w₁ w₂) (segment : String) (session : Session) :
    SameEffect
      (Handler.effect (World.answer hasher visit.salt) (Handler.unfollow visit.trace segment)
        session w₁)
      (Handler.effect (World.answer hasher visit.salt) (Handler.unfollow visit.trace segment)
        session w₂) := by
  rw [Handler.effect_unfollow, Handler.effect_unfollow]
  refine alike_addressed alike segment session ?_
  intro follower following session
  unfold Handler.unfollowed
  rw [alike.follows]
  exact ⟨rfl, rfl, alike.users, rfl⟩

theorem alike_handle (hasher : Password.Hasher) (alike : Alike w₁ w₂)
    (listing : SameListing visit w₁ w₂) (route : Route) :
    SameEffect
      (Handler.effect (World.answer hasher visit.salt)
        (App.handle visit.context visit.request route) (.start visit.request.session) w₁)
      (Handler.effect (World.answer hasher visit.salt)
        (App.handle visit.context visit.request route) (.start visit.request.session) w₂) := by
  cases route with
  | registrationForm => exact sameEffect_quiet _ alike
  | register =>
    unfold App.handle
    cases visit.request.form registrationFields with
    | error fault => exact sameEffect_quiet _ alike
    | ok form => exact alike_register alike form _
  | loginForm =>
    unfold App.handle
    cases visit.request.next with
    | error fault => exact sameEffect_quiet _ alike
    | ok next => exact sameEffect_quiet _ alike
  | login =>
    unfold App.handle
    cases visit.request.next with
    | error fault => exact sameEffect_quiet _ alike
    | ok next =>
      dsimp only
      cases visit.request.form loginFields with
      | error fault => exact sameEffect_quiet _ alike
      | ok form =>
        dsimp only
        rw [Handler.effect_login, Handler.effect_login, alike.users]
        exact sameEffect_quiet _ alike
  | logout => exact alike_logout alike _
  | profile segment => exact alike_profile alike listing segment
  | follow segment => exact alike_follow alike segment _
  | unfollow segment => exact alike_unfollow alike segment _
  | ready => exact sameEffect_quiet _ alike
  | live => exact sameEffect_quiet _ alike
  | apiDocument => exact sameEffect_quiet _ alike

/-! ### Visits -/

/-- Worlds that are alike answer a visit alike and stay alike. -/
theorem serve_alike (hasher : Password.Hasher) (alike : Alike w₁ w₂)
    (listing : SameListing visit w₁ w₂) :
    SameEffect (serve hasher visit w₁).effect (serve hasher visit w₂).effect := by
  cases found : visit.route? with
  | none =>
    rw [serve_unrouted hasher w₁ found, serve_unrouted hasher w₂ found]
    exact sameEffect_quiet _ alike
  | some route =>
    rw [serve_effect hasher w₁ found, serve_effect hasher w₂ found]
    exact sameEffect_answered (alike_handle hasher alike listing route)

/-- No visit touches the documents or the dispatcher. -/
theorem step_fixed {w after : World} {events : List FollowEvent}
    (step : Step hasher visit w events after) :
    after.documents = w.documents ∧ after.dispatcher = w.dispatcher := by
  cases step with
  | still => exact ⟨rfl, rfl⟩
  | loggedOut => exact ⟨rfl, rfl⟩
  | registered => exact ⟨rfl, rfl⟩
  | followed => exact ⟨rfl, rfl⟩
  | unfollowed => exact ⟨rfl, rfl⟩

end Folio.Http
