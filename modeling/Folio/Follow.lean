import Folio.Trace
import Folio.User

/-!
# Following

A user follows another along an edge. Each change is announced by an event.
-/

namespace Folio

/-- One user follows another. -/
structure FollowEdge where
  follower : UserId
  following : UserId
  deriving DecidableEq

/-- What came of a request to follow. -/
inductive FollowOutcome where
  | followed
  | alreadyFollowing
  deriving DecidableEq, Repr

/-- The answer that a request to follow or unfollow succeeded. -/
def followSuccess : Json :=
  .obj [("success", .bool true)]

/-- The answer to a request to follow. -/
def FollowOutcome.toJson : FollowOutcome → Json
  | followed => followSuccess
  | alreadyFollowing => .obj [("error", .str "You already following this people.")]

/-- Whether an edge was added or removed. -/
inductive FollowChange where
  | followed
  | unfollowed
  deriving DecidableEq, Repr

/-- The name under which a change is announced. -/
def FollowChange.name : FollowChange → String
  | followed => "follow_done"
  | unfollowed => "unfollow_done"

/-- An announcement that one user followed or unfollowed another. -/
structure FollowEvent where
  change : FollowChange
  follower : User
  following : User
  trace : Option TraceId
  deriving DecidableEq

namespace FollowEvent

/-- Where events come from. -/
def sender : String := "profile_detail"

/-- The edge that an event is about. -/
def edge (event : FollowEvent) : FollowEdge :=
  ⟨event.follower.id, event.following.id⟩

end FollowEvent

end Folio
