import Folio.Program

/-!
# Profiles

Profile pages, following and unfollowing. Changes are announced after they happened; whether the
announcement is received makes no difference to the caller.
-/

namespace Folio

/-- What a profile page shows. -/
structure ProfilePage where
  profile : User
  documents : List Document
  isFollowed : Bool
  canFollow : Bool
  deriving DecidableEq

/-- A profile page as JSON. -/
def ProfilePage.toJson (page : ProfilePage) : Json :=
  .obj [
    ("canFollow", .bool page.canFollow),
    ("documents", .arr (page.documents.map Document.toJson)),
    ("isFollowed", .bool page.isFollowed),
    ("profile", page.profile.toJson)]

namespace Profile

variable {α : Type}

/-- What a failure of the user store becomes. -/
def onUserError (trace : Option TraceId) : UserStoreError → Service α
  | .connection message =>
    Service.refuse trace .serviceUnavailable ("user repository unavailable: " ++ message)
  | .query message => Service.refuse trace .internalError ("user repository error: " ++ message)
  | .usernameTaken username =>
    Service.refuse trace .internalError ("unexpected username conflict: " ++ username)

/-- What a failure of the follow store becomes. -/
def onFollowError (trace : Option TraceId) : FollowStoreError → Service α
  | .connection message =>
    Service.refuse trace .serviceUnavailable ("follow repository unavailable: " ++ message)
  | .query message => Service.refuse trace .internalError ("follow repository error: " ++ message)
  | .alreadyExists => Service.refuse trace .internalError "unexpected follow edge conflict"

/-- What a failure of the document store becomes. -/
def onDocumentError (trace : Option TraceId) : DocumentStoreError → Service α
  | .connection message =>
    Service.refuse trace .serviceUnavailable ("document repository unavailable: " ++ message)
  | .query message =>
    Service.refuse trace .internalError ("document repository error: " ++ message)

/-- Nobody has the username. -/
def refuseUnknown (trace : Option TraceId) (username : String) : Service α :=
  Service.refuse trace .notFound ("no user named " ++ username)

/-- The user whose profile is asked for. -/
def profileUser (trace : Option TraceId) (username : Username) : Service User := do
  let reply ← Service.ask (.findUsername username)
  match ← Service.orElse reply (onUserError trace) with
  | some user => pure user
  | none => refuseUnknown trace username.text

/-- The user who asks. -/
def requestingUser (trace : Option TraceId) (id : UserId) : Service User := do
  let reply ← Service.ask (.findUser id)
  match ← Service.orElse reply (onUserError trace) with
  | some user => pure user
  | none => Service.refuse trace .unauthorized "session user no longer exists"

/-- Announces a change; failures to receive it are passed over. -/
def announce (event : FollowEvent) : Service Unit := do
  let _ ← Service.ask (.publish event)

/-- Whether a viewer follows a user; nobody follows anonymously. -/
def isFollowedBy (trace : Option TraceId) (viewer : Option UserId) (id : UserId) :
    Service Bool := do
  match viewer with
  | none => pure false
  | some viewer =>
    let reply ← Service.ask (.edgeExists ⟨viewer, id⟩)
    Service.orElse reply (onFollowError trace)

/-- The page of a user, as a viewer sees it. -/
def page (trace : Option TraceId) (username : Username) (viewer : Option UserId) :
    Service ProfilePage := do
  let profile ← profileUser trace username
  let reply ← Service.ask (.listDocuments ⟨profile.id, viewer⟩)
  let documents ← Service.orElse reply (onDocumentError trace)
  let isFollowed ← isFollowedBy trace viewer profile.id
  let canFollow := viewer.any (· != profile.id)
  pure ⟨profile, documents, isFollowed, canFollow⟩

/-- Lets one user follow another. -/
def follow (trace : Option TraceId) (follower : UserId) (following : Username) :
    Service FollowOutcome := do
  let following ← profileUser trace following
  let follower ← requestingUser trace follower
  let edge : FollowEdge := ⟨follower.id, following.id⟩
  let reply ← Service.ask (.edgeExists edge)
  if ← Service.orElse reply (onFollowError trace) then pure .alreadyFollowing
  else
    match ← Service.ask (.insertEdge edge) with
    | .ok () =>
      announce ⟨.followed, follower, following, trace⟩
      pure .followed
    | .error .alreadyExists => pure .alreadyFollowing
    | .error e => onFollowError trace e

/-- Lets one user stop following another, also when there was nothing to stop. -/
def unfollow (trace : Option TraceId) (follower : UserId) (following : Username) :
    Service Unit := do
  let following ← profileUser trace following
  let follower ← requestingUser trace follower
  let reply ← Service.ask (.deleteEdge ⟨follower.id, following.id⟩)
  let _ ← Service.orElse reply (onFollowError trace)
  announce ⟨.unfollowed, follower, following, trace⟩

end Profile

end Folio
