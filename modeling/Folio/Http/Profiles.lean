import Folio.Http.Session
import Folio.Profile

/-!
# Profile pages

The pages to look at a profile, to follow and to unfollow its user.
-/

namespace Folio.Http.Handler

/-- The username that a path segment is, exactly. -/
def username (trace : Option TraceId) (segment : String) : Handler Username :=
  match Username.verbatim? segment with
  | some name => pure name
  | none => ofService (Profile.refuseUnknown trace segment)

/-- Shows a profile. -/
def profile (trace : Option TraceId) (segment : String) : Handler Response := do
  let name ← username trace segment
  let viewer ← userId trace
  let page ← ofService (Profile.page trace name viewer)
  pure (Response.ok page.toJson)

/-- Follows the user of a profile. -/
def follow (trace : Option TraceId) (segment : String) : Handler Response := do
  let follower ← requireUserId trace
  let name ← username trace segment
  let outcome ← ofService (Profile.follow trace follower name)
  pure (Response.ok outcome.toJson)

/-- Unfollows the user of a profile. -/
def unfollow (trace : Option TraceId) (segment : String) : Handler Response := do
  let follower ← requireUserId trace
  let name ← username trace segment
  ofService (Profile.unfollow trace follower name)
  pure (Response.ok followSuccess)

end Folio.Http.Handler
