import Folio.Time.Instant
import Folio.Uuid

/-!
# Statements

The statements that are sent to the database: which rows they concern, the text that is sent and
the values bound to its placeholders.
-/

namespace Folio.Database

/-- A value in a row, or bound to a placeholder. -/
inductive Cell where
  | null
  | uuid (value : Uuid)
  | text (value : String)
  | bool (value : Bool)
  | int (value : Int)
  | time (value : Time.Instant)
  deriving DecidableEq

/-- The relations of the schema. -/
inductive Relation where
  | users
  | follows
  | documents
  deriving DecidableEq, Repr

/-- The columns of the schema. -/
inductive Column where
  | id
  | username
  | passwordHash
  | createdAt
  | sessionGeneration
  | followerId
  | followingId
  | userId
  | title
  | isPublic
  deriving DecidableEq, Repr

/-- The name of a relation. -/
def Relation.name : Relation → String
  | users => "users"
  | follows => "follows"
  | documents => "documents"

/-- The name of a column. -/
def Column.name : Column → String
  | id => "id"
  | username => "username"
  | passwordHash => "password_hash"
  | createdAt => "created_at"
  | sessionGeneration => "session_generation"
  | followerId => "follower_id"
  | followingId => "following_id"
  | userId => "user_id"
  | title => "title"
  | isPublic => "is_public"

/-- The columns of a relation. -/
def Relation.columns : Relation → List Column
  | users => [.id, .username, .passwordHash, .createdAt, .sessionGeneration]
  | follows => [.followerId, .followingId, .createdAt]
  | documents => [.id, .userId, .title, .isPublic, .createdAt]

/-- A column has a value. -/
structure Condition where
  column : Column
  value : Cell
  deriving DecidableEq

/-- A request for columns of the rows that meet all conditions. -/
structure Query where
  relation : Relation
  columns : List Column
  conditions : List Condition
  /-- The column by which rows come with the latest first. -/
  latestFirst : Option Column := none
  limit : Option Nat := none
  deriving DecidableEq

/-- What the database is asked to do. -/
inductive Statement where
  | insert (relation : Relation) (values : List (Column × Cell))
  | select (query : Query)
  /-- Whether some row meets all conditions. -/
  | any (relation : Relation) (conditions : List Condition)
  /-- Adds to a column of the rows that meet all conditions. -/
  | increment (relation : Relation) (column : Column) (amount : Int) (conditions : List Condition)
  | delete (relation : Relation) (conditions : List Condition)
  deriving DecidableEq

/-! ### Text -/

/-- A name between quotes. -/
def quoteName (name : String) : String :=
  "\"" ++ name ++ "\""

/-- A column with its relation. -/
def Relation.column (relation : Relation) (column : Column) : String :=
  quoteName relation.name ++ "." ++ quoteName column.name

/-- Texts with commas between them. -/
def commas (texts : List String) : String :=
  ", ".intercalate texts

/-- The placeholder of a bound value. -/
def placeholder (position : Nat) : String :=
  "$" ++ toString position

/-- A condition on the value at a position. -/
def Condition.sql (relation : Relation) (position : Nat) (condition : Condition) : String :=
  "(" ++ relation.column condition.column ++ " = " ++ placeholder position ++ ")"

/-- Conditions joined one by one to those before them. -/
def joinConditions (relation : Relation) (position : Nat) (before : String) :
    List Condition → String
  | [] => before
  | condition :: rest =>
    joinConditions relation (position + 1)
      ("(" ++ before ++ " AND " ++ condition.sql relation position ++ ")") rest

/-- The clause for conditions whose values start at a position. -/
def whereClause (relation : Relation) (position : Nat) : List Condition → String
  | [] => ""
  | condition :: rest =>
    " WHERE " ++ joinConditions relation (position + 1) (condition.sql relation position) rest

/-- The text of a query. -/
def Query.sql (query : Query) : String :=
  let order := match query.latestFirst with
    | some column => " ORDER BY " ++ query.relation.column column ++ " DESC"
    | none => ""
  let limit := match query.limit with
    | some _ => " LIMIT " ++ placeholder (query.conditions.length + 1)
    | none => ""
  "SELECT " ++ commas (query.columns.map query.relation.column)
    ++ " FROM " ++ quoteName query.relation.name
    ++ whereClause query.relation 1 query.conditions ++ order ++ limit

namespace Statement

/-- The text of a statement. -/
def sql : Statement → String
  | insert relation values =>
    "INSERT INTO " ++ quoteName relation.name
      ++ " (" ++ commas (values.map fun value => quoteName value.1.name) ++ ") VALUES ("
      ++ commas ((List.range values.length).map fun i => placeholder (i + 1)) ++ ")"
  | select query => query.sql
  | any relation conditions =>
    let query : Query := { relation, columns := relation.columns, conditions }
    "SELECT EXISTS (" ++ query.sql ++ ")"
  | increment relation column _ conditions =>
    "UPDATE " ++ quoteName relation.name ++ " SET " ++ quoteName column.name ++ " = ("
      ++ relation.column column ++ " + " ++ placeholder 1 ++ ")"
      ++ whereClause relation 2 conditions
  | delete relation conditions =>
    "DELETE FROM " ++ quoteName relation.name ++ whereClause relation 1 conditions

/-- The bound values, in the order of their placeholders. -/
def binds : Statement → List Cell
  | insert _ values => values.map (·.2)
  | select query =>
    query.conditions.map (·.value) ++ (query.limit.map fun n => Cell.int n).toList
  | any _ conditions => conditions.map (·.value)
  | increment _ _ amount conditions => .int amount :: conditions.map (·.value)
  | delete _ conditions => conditions.map (·.value)

end Statement

/-! ### Replies -/

/-- What a statement that succeeds leaves. -/
structure Result where
  rows : List (List Cell) := []
  affected : Nat := 0
  deriving DecidableEq

/-- Why a statement fails. -/
inductive Failure where
  | refused (sqlstate message : String)
  | disconnected
  deriving DecidableEq, Repr

/-- The reply to a statement. -/
abbrev Reply := Except Failure Result

/-- The state in which a statement that would repeat a unique key is refused. -/
def uniqueViolation : String := "23505"

/-- Whether a statement failed because it would repeat a unique key. -/
def Failure.isUniqueViolation : Failure → Bool
  | refused sqlstate _ => sqlstate == uniqueViolation
  | disconnected => false

end Folio.Database
