import Folio.Time.Rfc3339
import Folio.User

/-!
# Documents

A document belongs to a user and is public or private; private ones are listed to their owner
only.
-/

namespace Folio

/-- A shared document, as a profile lists it. -/
structure Document where
  id : Uuid
  owner : UserId
  title : String
  isPublic : Bool
  createdAt : Time.Instant
  deriving DecidableEq

namespace Document

/-- Whether a viewer may see a document. -/
def isVisibleTo (document : Document) (viewer : Option UserId) : Bool :=
  document.isPublic || viewer == some document.owner

/-- A document as JSON. -/
def toJson (document : Document) : Json :=
  .obj [
    ("createdAt", .str document.createdAt.render),
    ("id", .str document.id.render),
    ("isPublic", .bool document.isPublic),
    ("title", .str document.title),
    ("userId", document.owner.toJson)]

/-- Reads a UUID from JSON. -/
def uuidOfJson? : Json → Option Uuid
  | .str s => Uuid.parse? s
  | _ => none

/-- Reads a user id from JSON. -/
def ownerOfJson? (value : Json) : Option UserId :=
  (UserId.ofJson value).toOption

/-- Reads a timestamp from JSON. -/
def instantOfJson? : Json → Option Time.Instant
  | .str s => Time.Instant.parse? s
  | _ => none

/-- Reads a document from its five parts. -/
def ofParts? (id owner title isPublic createdAt : Json) : Option Document := do
  let id ← uuidOfJson? id
  let owner ← ownerOfJson? owner
  let title ← title.asString.toOption
  let isPublic ← isPublic.asBool.toOption
  let createdAt ← instantOfJson? createdAt
  pure ⟨id, owner, title, isPublic, createdAt⟩

/-- Reads a document from an object that has each of its members once, or from an array of them. -/
def ofJson? : Json → Option Document
  | .obj members => do
    ofParts? (← Json.only? "id" members) (← Json.only? "userId" members)
      (← Json.only? "title" members) (← Json.only? "isPublic" members)
      (← Json.only? "createdAt" members)
  | .arr [id, owner, title, isPublic, createdAt] => ofParts? id owner title isPublic createdAt
  | _ => none

end Document

/-- A request for the documents of a user, as a viewer sees them. -/
structure DocumentQuery where
  owner : UserId
  viewer : Option UserId
  deriving DecidableEq

namespace DocumentQuery

/-- Whether private documents are listed: the owner is looking. -/
def includesPrivate (query : DocumentQuery) : Bool :=
  query.viewer == some query.owner

/-- Whether a document is listed. -/
def «matches» (query : DocumentQuery) (document : Document) : Bool :=
  document.owner == query.owner && document.isVisibleTo query.viewer

end DocumentQuery

end Folio
