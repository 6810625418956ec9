import Folio.Profile
import Folio.Proofs.Program.Effect
import Folio.Proofs.Store.Follows
import Folio.Proofs.Text.Blank
import Folio.World

/-!
# Profiles over the world in memory

The effects of showing a profile, following and unfollowing: which problem each ends in, which edge
it changes and what it announces.
-/

namespace Folio.Profile

open Program

variable {σ α : Type} {answer : (c : Call) → σ → c.Reply × σ}

def unknownUser (trace : Option TraceId) (username : String) : Problem where
  code := .notFound
  message := "no user named " ++ username
  traceId := trace.map TraceId.render
  details := none
  message_visible := Text.isBlankText_append (by decide)

def vanishedUser (trace : Option TraceId) : Problem where
  code := .unauthorized
  message := "session user no longer exists"
  traceId := trace.map TraceId.render
  details := none
  message_visible := by decide

theorem effect_refuseUnknown (trace : Option TraceId) (username : String) (s : σ) :
    Service.effect answer (refuseUnknown trace username : Service α) s =
      .quiet (.error (unknownUser trace username)) s :=
  Service.effect_refuse
    (Problem.new_of_visible trace .notFound (unknownUser trace username).message_visible) s

variable (hasher : Password.Hasher) (salt : List UInt8)

theorem effect_profileUser (trace : Option TraceId) (username : Username) (w : World) :
    Service.effect (World.answer hasher salt) (profileUser trace username) w =
      match w.users.findUsername? username with
      | some user => .quiet (.ok user) w
      | none => .quiet (.error (unknownUser trace username.text)) w := by
  unfold profileUser
  rw [Service.effect_ask_bind (fun _ => rfl)]
  dsimp only [World.answer]
  rw [Service.orElse_ok_bind]
  cases w.users.findUsername? username with
  | some user => rfl
  | none => exact effect_refuseUnknown trace username.text w

theorem effect_requestingUser (trace : Option TraceId) (id : UserId) (w : World) :
    Service.effect (World.answer hasher salt) (requestingUser trace id) w =
      match w.users.find? id with
      | some user => .quiet (.ok user) w
      | none => .quiet (.error (vanishedUser trace)) w := by
  unfold requestingUser
  rw [Service.effect_ask_bind (fun _ => rfl)]
  dsimp only [World.answer]
  rw [Service.orElse_ok_bind]
  cases w.users.find? id with
  | some user => rfl
  | none =>
    exact Service.effect_refuse
      (Problem.new_of_visible trace .unauthorized (vanishedUser trace).message_visible) w

/-- An announcement is an event, whatever the receivers answer. -/
theorem effect_announce (event : FollowEvent) (w : World) :
    Service.effect (World.answer hasher salt) (announce event) w =
      ⟨.finished (.ok ()), [event], w⟩ := rfl

theorem effect_isFollowedBy (trace : Option TraceId) (viewer : Option UserId) (id : UserId)
    (w : World) :
    Service.effect (World.answer hasher salt) (isFollowedBy trace viewer id) w =
      .quiet (.ok (viewer.any fun viewer => w.follows.contains ⟨viewer, id⟩)) w := by
  cases viewer with
  | none => rfl
  | some viewer => rfl

/-- The page of a user, from the stores that it is put together from. -/
def pageOf (w : World) (user : User) (viewer : Option UserId) : ProfilePage where
  profile := user
  documents := w.documents.list ⟨user.id, viewer⟩
  isFollowed := viewer.any fun viewer => w.follows.contains ⟨viewer, user.id⟩
  canFollow := viewer.any (· != user.id)

theorem effect_page (trace : Option TraceId) (username : Username) (viewer : Option UserId)
    (w : World) :
    Service.effect (World.answer hasher salt) (page trace username viewer) w =
      match w.users.findUsername? username with
      | some user => .quiet (.ok (pageOf w user viewer)) w
      | none => .quiet (.error (unknownUser trace username.text)) w := by
  unfold page
  rw [Service.effect_bind, effect_profileUser]
  cases w.users.findUsername? username with
  | none => rfl
  | some user =>
    dsimp only
    rw [Effect.quiet_andThen]
    dsimp only
    rw [Service.effect_ask_bind (fun _ => rfl)]
    dsimp only [World.answer]
    rw [Service.orElse_ok_bind, Service.effect_bind, effect_isFollowedBy, Effect.quiet_andThen]
    rfl

/-- Following adds an edge that is not there and announces it; an edge that is there stays. -/
theorem effect_follow (trace : Option TraceId) (id : UserId) (username : Username) (w : World) :
    Service.effect (World.answer hasher salt) (follow trace id username) w =
      match w.users.findUsername? username, w.users.find? id with
      | none, _ => .quiet (.error (unknownUser trace username.text)) w
      | some _, none => .quiet (.error (vanishedUser trace)) w
      | some following, some follower =>
        if w.follows.contains ⟨follower.id, following.id⟩ then .quiet (.ok .alreadyFollowing) w
        else
          ⟨.finished (.ok .followed), [⟨.followed, follower, following, trace⟩],
            { w with follows := w.follows.added ⟨follower.id, following.id⟩ }⟩ := by
  unfold follow
  rw [Service.effect_bind, effect_profileUser]
  cases w.users.findUsername? username with
  | none => rfl
  | some following =>
    dsimp only
    rw [Effect.quiet_andThen]
    dsimp only
    rw [Service.effect_bind, effect_requestingUser]
    cases w.users.find? id with
    | none => rfl
    | some follower =>
      dsimp only
      rw [Effect.quiet_andThen]
      dsimp only
      rw [Service.effect_ask_bind (fun _ => rfl)]
      dsimp only [World.answer]
      rw [Service.orElse_ok_bind]
      cases present : w.follows.contains ⟨follower.id, following.id⟩ with
      | true => rfl
      | false =>
        simp only [Bool.false_eq_true, if_false]
        rw [Service.effect_ask_bind (fun _ => rfl)]
        dsimp only [World.answer]
        rw [Follows.insert_absent present, Service.effect_bind, effect_announce]
        rfl

/-- Unfollowing removes the edge if it is there and is announced in either case. -/
theorem effect_unfollow (trace : Option TraceId) (id : UserId) (username : Username) (w : World) :
    Service.effect (World.answer hasher salt) (unfollow trace id username) w =
      match w.users.findUsername? username, w.users.find? id with
      | none, _ => .quiet (.error (unknownUser trace username.text)) w
      | some _, none => .quiet (.error (vanishedUser trace)) w
      | some following, some follower =>
        ⟨.finished (.ok ()), [⟨.unfollowed, follower, following, trace⟩],
          { w with follows := (w.follows.delete ⟨follower.id, following.id⟩).2 }⟩ := by
  unfold unfollow
  rw [Service.effect_bind, effect_profileUser]
  cases w.users.findUsername? username with
  | none => rfl
  | some following =>
    dsimp only
    rw [Effect.quiet_andThen]
    dsimp only
    rw [Service.effect_bind, effect_requestingUser]
    cases w.users.find? id with
    | none => rfl
    | some follower =>
      dsimp only
      rw [Effect.quiet_andThen]
      dsimp only
      rw [Service.effect_ask_bind (fun _ => rfl)]
      dsimp only [World.answer]
      rw [Service.orElse_ok_bind, effect_announce]

end Folio.Profile
