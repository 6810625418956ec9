/-!
# Failures of stores and helpers

What can go wrong behind the services: in a store, the password hasher, an event receiver, the
connection pool or a schema migration.
-/

namespace Folio

/-- A failure of the user store. -/
inductive UserStoreError where
  | connection (message : String)
  | query (message : String)
  | usernameTaken (username : String)
  deriving DecidableEq, Repr

/-- The wording of a failure. -/
def UserStoreError.message : UserStoreError → String
  | connection message => "user repository connection failed: " ++ message
  | query message => "user repository query failed: " ++ message
  | usernameTaken username => "username already taken: " ++ username

/-- A failure of the follow store. -/
inductive FollowStoreError where
  | connection (message : String)
  | query (message : String)
  | alreadyExists
  deriving DecidableEq, Repr

/-- The wording of a failure. -/
def FollowStoreError.message : FollowStoreError → String
  | connection message => "follow repository connection failed: " ++ message
  | query message => "follow repository query failed: " ++ message
  | alreadyExists => "follow edge already exists"

/-- A failure of the document store. -/
inductive DocumentStoreError where
  | connection (message : String)
  | query (message : String)
  deriving DecidableEq, Repr

/-- The wording of a failure. -/
def DocumentStoreError.message : DocumentStoreError → String
  | connection message => "document repository connection failed: " ++ message
  | query message => "document repository query failed: " ++ message

/-- A failure of the password hasher. -/
inductive HasherError where
  | hash (message : String)
  | malformedHash (message : String)
  deriving DecidableEq, Repr

/-- The wording of a failure. -/
def HasherError.message : HasherError → String
  | hash message => "password hashing failed: " ++ message
  | malformedHash message => "stored password hash is malformed: " ++ message

/-- A receiver failed on an event. -/
structure ReceiverError where
  receiver : String
  reason : String
  deriving DecidableEq, Repr

/-- The wording of a failure. -/
def ReceiverError.message (e : ReceiverError) : String :=
  "event receiver " ++ e.receiver ++ " failed: " ++ e.reason

/-- A failure of the connection pool. -/
inductive PoolError where
  | checkout (message : String)
  | build (message : String)
  deriving DecidableEq, Repr

/-- The wording of a failure. -/
def PoolError.message : PoolError → String
  | checkout message => "failed to get connection from pool: " ++ message
  | build message => "failed to build connection pool: " ++ message

/-- A failure of the schema migrations. -/
inductive MigrationError where
  | connect (message : String)
  | apply (message : String)
  | task (message : String)
  deriving DecidableEq, Repr

/-- The wording of a failure. -/
def MigrationError.message : MigrationError → String
  | connect message => "failed to connect for migrations: " ++ message
  | apply message => "failed to apply migrations: " ++ message
  | task message => "migration task failed: " ++ message

end Folio
