import Folio.Database.Statement
import Folio.Program

/-!
# Stores in a database

Each call to a store is one statement, and the reply to the statement is read back as the reply to
the call.
-/

namespace Folio.Database

/-! ### Statements of the stores -/

/-- Adds a user. -/
def createUser (user : User) (hash : PasswordHash) : Statement :=
  .insert .users
    [(.id, .uuid user.id.uuid), (.username, .text user.username.text),
     (.passwordHash, .text hash.encoded)]

/-- Looks up columns of one user. -/
def selectUser (columns : List Column) (condition : Condition) : Statement :=
  .select { relation := .users, columns, conditions := [condition], limit := some 1 }

/-- The row of an id. -/
def hasId (id : UserId) : Condition := ⟨.id, .uuid id.uuid⟩

/-- The row of a username. -/
def hasUsername (username : Username) : Condition := ⟨.username, .text username.text⟩

/-- The row of an edge. -/
def isEdge (edge : FollowEdge) : List Condition :=
  [⟨.followerId, .uuid edge.follower.uuid⟩, ⟨.followingId, .uuid edge.following.uuid⟩]

/-- Adds an edge. -/
def insertEdge (edge : FollowEdge) : Statement :=
  .insert .follows
    [(.followerId, .uuid edge.follower.uuid), (.followingId, .uuid edge.following.uuid)]

/-- The documents that a query lists, the latest first. -/
def selectDocuments (query : DocumentQuery) : Query :=
  { relation := .documents
    columns := [.id, .userId, .title, .isPublic, .createdAt]
    conditions := ⟨.userId, .uuid query.owner.uuid⟩
      :: if query.includesPrivate then [] else [⟨.isPublic, .bool true⟩]
    latestFirst := some .createdAt }

/-! ### Rows -/

/-- What a failure of the database is reported as, its cause left out. -/
def databaseError : String := "database error"

/-- What is reported when a row has to be there and is not. -/
def rowMissing : String := "record not found"

/-- A user from the columns of a row. The stored username has to be valid. -/
def userOfRow (id : Uuid) (username : String) : Except UserStoreError User :=
  match Username.parse username with
  | .ok name => .ok ⟨⟨id⟩, name⟩
  | .error e => .error (.query ("stored username invalid: " ++ e.message))

/-- A user from a row with id and username. -/
def readUser : List Cell → Except UserStoreError User
  | [.uuid id, .text username] => userOfRow id username
  | _ => .error (.query databaseError)

/-- A user and the password hash from a row. -/
def readCredentials : List Cell → Except UserStoreError StoredCredentials
  | [.uuid id, .text username, .text hash] => do
    pure ⟨← userOfRow id username, ⟨hash⟩⟩
  | _ => .error (.query databaseError)

/-- A session generation from a row. -/
def readGeneration : List Cell → Except UserStoreError Generation
  | [.int n] =>
    match Generation.ofInt? n with
    | some g => .ok g
    | none => .error (.query databaseError)
  | _ => .error (.query databaseError)

/-- A document from a row. -/
def readDocument : List Cell → Except DocumentStoreError Document
  | [.uuid id, .uuid owner, .text title, .bool isPublic, .time createdAt] =>
    .ok ⟨id, ⟨owner⟩, title, isPublic, createdAt⟩
  | _ => .error (.query databaseError)

/-- The first row of a reply, if there is one. -/
def firstRow {α : Type} (read : List Cell → Except UserStoreError α) :
    Reply → Except UserStoreError (Option α)
  | .error _ => .error (.query databaseError)
  | .ok result =>
    match result.rows with
    | [] => .ok none
    | row :: _ => (read row).map some

/-! ### Replies of the stores -/

/-- Whether a user was added. A repeated key is the username's. -/
def created (username : Username) : Reply → Except UserStoreError Unit
  | .ok _ => .ok ()
  | .error failure =>
    .error (if failure.isUniqueViolation then .usernameTaken username.text
      else .query databaseError)

/-- Whether a statement on users was carried out. -/
def carriedOut : Reply → Except UserStoreError Unit
  | .ok _ => .ok ()
  | .error _ => .error (.query databaseError)

/-- Whether an edge is stored. -/
def edgeFound : Reply → Except FollowStoreError Bool
  | .error _ => .error (.query databaseError)
  | .ok result =>
    match result.rows with
    | [] => .error (.query rowMissing)
    | [.bool found] :: _ => .ok found
    | _ :: _ => .error (.query databaseError)

/-- Whether an edge was added. A repeated key is the edge. -/
def edgeInserted : Reply → Except FollowStoreError Unit
  | .ok _ => .ok ()
  | .error failure =>
    .error (if failure.isUniqueViolation then .alreadyExists else .query databaseError)

/-- Whether an edge was removed. -/
def edgeDeleted : Reply → Except FollowStoreError Bool
  | .ok result => .ok (decide (0 < result.affected))
  | .error _ => .error (.query databaseError)

/-- The documents of a reply, in its order. -/
def documentsFound : Reply → Except DocumentStoreError (List Document)
  | .ok result => result.rows.mapM readDocument
  | .error _ => .error (.query databaseError)

/-! ### Calls -/

/-- How a call is answered through a database. -/
structure Access (c : Call) where
  statement : Statement
  /-- The reply to the call, read from the reply to the statement. -/
  read : Reply → c.Reply
  /-- The reply to the call when there is no connection. -/
  unconnected : String → c.Reply

/-- How a call to a store is answered through a database. -/
def access? : (c : Call) → Option (Access c)
  | .createUser user hash =>
    some ⟨createUser user hash, created user.username, fun m => .error (.connection m)⟩
  | .findUser id =>
    some ⟨selectUser [.id, .username] (hasId id), firstRow readUser,
      fun m => .error (.connection m)⟩
  | .findUsername username =>
    some ⟨selectUser [.id, .username] (hasUsername username), firstRow readUser,
      fun m => .error (.connection m)⟩
  | .findCredentials username =>
    some ⟨selectUser [.id, .username, .passwordHash] (hasUsername username),
      firstRow readCredentials, fun m => .error (.connection m)⟩
  | .readGeneration id =>
    some ⟨selectUser [.sessionGeneration] (hasId id), firstRow readGeneration,
      fun m => .error (.connection m)⟩
  | .advanceGeneration id =>
    some ⟨.increment .users .sessionGeneration 1 [hasId id], carriedOut,
      fun m => .error (.connection m)⟩
  | .edgeExists edge =>
    some ⟨.any .follows (isEdge edge), edgeFound, fun m => .error (.connection m)⟩
  | .insertEdge edge =>
    some ⟨insertEdge edge, edgeInserted, fun m => .error (.connection m)⟩
  | .deleteEdge edge =>
    some ⟨.delete .follows (isEdge edge), edgeDeleted, fun m => .error (.connection m)⟩
  | .listDocuments query =>
    some ⟨.select (selectDocuments query), documentsFound, fun m => .error (.connection m)⟩
  | .hashPassword _ | .verifyPassword _ _ | .publish _ => none

/-- Answers a call to a store through a database, and any other as `otherwise` does. `exhausted` is
the failure of a pool that has no connection left, and `send` the database. -/
def answer {σ : Type} (exhausted : Option String) (send : Statement → σ → Reply × σ)
    (otherwise : (c : Call) → σ → c.Reply × σ) (c : Call) (s : σ) : c.Reply × σ :=
  match access? c, exhausted with
  | none, _ => otherwise c s
  | some access, some message => (access.unconnected message, s)
  | some access, none =>
    let (reply, s) := send access.statement s
    (access.read reply, s)

end Folio.Database
