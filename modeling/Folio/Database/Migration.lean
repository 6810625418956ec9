import Folio.Store.Error

/-!
# Migrations

Changes of the schema, each applied once and in the order of their versions. The database keeps
the versions that were applied.
-/

namespace Folio.Database

/-- A change of the schema. -/
structure Migration where
  version : String
  title : String
  sql : String
  deriving DecidableEq, Repr

namespace Migration

/-- The name of a migration: its date and time, and what it does. -/
def name (m : Migration) : String :=
  let part (start length : Nat) : String :=
    String.ofList ((m.version.toList.drop start).take length)
  part 0 4 ++ "-" ++ part 4 2 ++ "-" ++ part 6 2 ++ "-" ++ part 8 6 ++ "_" ++ m.title

/-- Users, by id and by username. -/
def createUsers : Migration where
  version := "20240501000000"
  title := "create_users"
  sql := "CREATE TABLE users (\n" ++
    "    id UUID PRIMARY KEY,\n" ++
    "    username VARCHAR(150) NOT NULL UNIQUE,\n" ++
    "    password_hash TEXT NOT NULL,\n" ++
    "    created_at TIMESTAMPTZ NOT NULL DEFAULT now()\n" ++
    ");\n"

/-- Edges between users. -/
def createFollows : Migration where
  version := "20240501000100"
  title := "create_follows"
  sql := "CREATE TABLE follows (\n" ++
    "    follower_id UUID NOT NULL REFERENCES users (id) ON DELETE CASCADE,\n" ++
    "    following_id UUID NOT NULL REFERENCES users (id) ON DELETE CASCADE,\n" ++
    "    created_at TIMESTAMPTZ NOT NULL DEFAULT now(),\n" ++
    "    PRIMARY KEY (follower_id, following_id)\n" ++
    ");\n\n" ++
    "CREATE INDEX follows_following_id_idx ON follows (following_id);\n"

/-- Documents of users. -/
def createDocuments : Migration where
  version := "20240501000200"
  title := "create_documents"
  sql := "CREATE TABLE documents (\n" ++
    "    id UUID PRIMARY KEY,\n" ++
    "    user_id UUID NOT NULL REFERENCES users (id) ON DELETE CASCADE,\n" ++
    "    title TEXT NOT NULL,\n" ++
    "    is_public BOOLEAN NOT NULL DEFAULT FALSE,\n" ++
    "    created_at TIMESTAMPTZ NOT NULL DEFAULT now()\n" ++
    ");\n\n" ++
    "CREATE INDEX documents_user_id_created_at_idx ON documents (user_id, created_at DESC);\n"

/-- Session generations of users. -/
def addSessionGeneration : Migration where
  version := "20240501000300"
  title := "add_user_session_generation"
  sql := "ALTER TABLE users\n" ++
    "    ADD COLUMN session_generation BIGINT NOT NULL DEFAULT 0;\n"

/-- All migrations, in the order of their versions. -/
def all : List Migration :=
  [createUsers, createFollows, createDocuments, addSessionGeneration]

/-- The migrations that are still to be applied. -/
def pending (applied : List String) : List Migration :=
  all.filter fun m => !applied.contains m.version

end Migration

namespace Migrations

/-- A text sent to the database, and the values bound to its placeholders. -/
structure Sent where
  sql : String
  binds : List String := []
  deriving DecidableEq, Repr

/-- Creates the table of applied versions. -/
def setUp : Sent :=
  ⟨"CREATE TABLE IF NOT EXISTS __diesel_schema_migrations (\n" ++
    "       version VARCHAR(50) PRIMARY KEY NOT NULL,\n" ++
    "       run_on TIMESTAMP NOT NULL DEFAULT CURRENT_TIMESTAMP\n" ++
    ");\n", []⟩

/-- Asks for the applied versions. -/
def readVersions : Sent :=
  ⟨"SELECT \"__diesel_schema_migrations\".\"version\" FROM \"__diesel_schema_migrations\" " ++
    "ORDER BY \"__diesel_schema_migrations\".\"version\" DESC", []⟩

/-- Notes that a version is applied. -/
def noteVersion (version : String) : Sent :=
  ⟨"INSERT INTO \"__diesel_schema_migrations\" (\"version\") VALUES ($1)", [version]⟩

/-- What a run of the migrations sent, which it applied, and why it stopped. -/
structure Run where
  sent : List Sent
  applied : List Migration
  error : Option MigrationError

/-- Sends texts one after the other until one fails; `failure?` tells what the database says. -/
def sendAll (failure? : Sent → Option String) : List Sent → List Sent × Option String
  | [] => ([], none)
  | sent :: rest =>
    match failure? sent with
    | some message => ([sent], some message)
    | none =>
      let (later, failed) := sendAll failure? rest
      (sent :: later, failed)

/-- Applies one migration in a transaction, which is rolled back when something in it fails. -/
def applyOne (failure? : Sent → Option String) (m : Migration) : List Sent × Option String :=
  match failure? ⟨"BEGIN", []⟩ with
  | some message => ([⟨"BEGIN", []⟩], some message)
  | none =>
    match failure? ⟨m.sql, []⟩ with
    | some message =>
      ([⟨"BEGIN", []⟩, ⟨m.sql, []⟩, ⟨"ROLLBACK", []⟩],
        some ("Failed to run " ++ m.name ++ " with: " ++ message))
    | none =>
      match failure? (noteVersion m.version) with
      | some message =>
        ([⟨"BEGIN", []⟩, ⟨m.sql, []⟩, noteVersion m.version, ⟨"ROLLBACK", []⟩], some message)
      | none =>
        ([⟨"BEGIN", []⟩, ⟨m.sql, []⟩, noteVersion m.version, ⟨"COMMIT", []⟩],
          failure? ⟨"COMMIT", []⟩)

/-- Applies migrations until one fails. -/
def applyAll (failure? : Sent → Option String) : List Migration → Run
  | [] => ⟨[], [], none⟩
  | m :: rest =>
    match applyOne failure? m with
    | (sent, some message) => ⟨sent, [], some (.apply message)⟩
    | (sent, none) =>
      let later := applyAll failure? rest
      { later with sent := sent ++ later.sent, applied := m :: later.applied }

/-- Applies what is pending. `applied` are the versions that the database knows. -/
def run (failure? : Sent → Option String) (applied : List String) : Run :=
  match sendAll failure? [setUp, readVersions] with
  | (sent, some message) => ⟨sent, [], some (.apply message)⟩
  | (sent, none) =>
    let later := applyAll failure? (Migration.pending applied)
    { later with sent := sent ++ later.sent }

end Migrations

end Folio.Database
