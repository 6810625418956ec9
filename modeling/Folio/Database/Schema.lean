import Folio.Database.Statement

/-!
# The schema

What a database does with statements: its rows, the keys that no two rows share, the rows that have
to exist for others, and the values of columns that are not given.
-/

namespace Folio.Database

/-- A row: the value of every column. -/
abbrev Row := Column → Cell

/-- Whether a row meets a condition. A null meets none. -/
def Condition.holds (condition : Condition) (row : Row) : Bool :=
  row condition.column ≠ .null && row condition.column == condition.value

/-- Whether a row meets all conditions. -/
def Row.meets (row : Row) (conditions : List Condition) : Bool :=
  conditions.all fun condition => condition.holds row

/-- The columns of a row, in the order asked for. -/
def Row.project (row : Row) (columns : List Column) : List Cell :=
  columns.map row

/-- The place of a time in an order that grows with time. -/
def Cell.rank : Cell → Int
  | time t => t.rank
  | _ => 0

/-- Whether a row may stand before another when the latest comes first. -/
def Row.notBefore (column : Column) (a b : Row) : Bool :=
  (b column).rank ≤ (a column).rank

namespace Query

/-- Rows cut to the limit of a query. -/
def cut (query : Query) (rows : List Row) : List Row :=
  match query.limit with
  | some n => rows.take n
  | none => rows

/-- What a database may answer to a query: the rows that meet the conditions, in an order that
keeps to the one asked for and is open among equals. -/
def Admits (query : Query) (rows : List Row) (answer : List (List Cell)) : Prop :=
  ∃ ordered : List Row,
    ordered.Perm (rows.filter fun row => row.meets query.conditions)
      ∧ (∀ column, query.latestFirst = some column →
          ordered.Pairwise fun a b => Row.notBefore column a b = true)
      ∧ answer = (query.cut ordered).map fun row => row.project query.columns

/-- The answer in which equals come in the order of the rows. -/
def evaluate (query : Query) (rows : List Row) : List (List Cell) :=
  let found := rows.filter fun row => row.meets query.conditions
  let ordered := match query.latestFirst with
    | some column => found.mergeSort (Row.notBefore column)
    | none => found
  (query.cut ordered).map fun row => row.project query.columns

end Query

namespace Relation

/-- The keys of a relation: no two rows agree on all columns of one. -/
def keys : Relation → List (List Column)
  | users => [[.id], [.username]]
  | follows => [[.followerId, .followingId]]
  | documents => [[.id]]

/-- The columns that hold the id of a user who has to exist. -/
def owners : Relation → List Column
  | users => []
  | follows => [.followerId, .followingId]
  | documents => [.userId]

/-- The value of a column that is not given. -/
def default (relation : Relation) (now : Time.Instant) : Column → Cell
  | .createdAt => .time now
  | .sessionGeneration => if relation = users then .int 0 else .null
  | .isPublic => if relation = documents then .bool false else .null
  | _ => .null

end Relation

/-- The rows of every relation. -/
structure Tables where
  rows : Relation → List Row

namespace Tables

/-- The tables without rows. -/
def empty : Tables := ⟨fun _ => []⟩

/-- The tables with other rows in one relation. -/
def put (tables : Tables) (relation : Relation) (rows : List Row) : Tables :=
  ⟨fun r => if r = relation then rows else tables.rows r⟩

/-- Whether a row repeats a key. -/
def repeatsKey (tables : Tables) (relation : Relation) (row : Row) : Bool :=
  relation.keys.any fun key =>
    (tables.rows relation).any fun other => key.all fun column => other column == row column

/-- Whether a row names a user who does not exist. -/
def lacksOwner (tables : Tables) (relation : Relation) (row : Row) : Bool :=
  relation.owners.any fun column =>
    !(tables.rows .users).any fun user => user .id == row column

/-- Adds to a column. -/
def add (column : Column) (amount : Int) (row : Row) : Row :=
  match row column with
  | .int n => fun c => if c = column then .int (n + amount) else row c
  | _ => row

/-- Whether adding to a column leaves the 64 bits of a counter. -/
def overflows (column : Column) (amount : Int) (row : Row) : Bool :=
  match row column with
  | .int n => decide (n + amount < -9223372036854775808 ∨ 9223372036854775807 < n + amount)
  | _ => false

/-- Carries out a statement; `now` is the time of the statement. -/
def execute (now : Time.Instant) : Statement → Tables → Reply × Tables
  | .insert relation values, tables =>
    let row : Row := fun column => (values.lookup column).getD (relation.default now column)
    if tables.repeatsKey relation row then
      (.error (.refused uniqueViolation "duplicate key"), tables)
    else if tables.lacksOwner relation row then
      (.error (.refused "23503" "no such user"), tables)
    else (.ok { affected := 1 }, tables.put relation (tables.rows relation ++ [row]))
  | .select query, tables => (.ok { rows := query.evaluate (tables.rows query.relation) }, tables)
  | .any relation conditions, tables =>
    let found := (tables.rows relation).any fun row => row.meets conditions
    (.ok { rows := [[.bool found]] }, tables)
  | .increment relation column amount conditions, tables =>
    let chosen := (tables.rows relation).filter fun row => row.meets conditions
    if chosen.any (overflows column amount) then
      (.error (.refused "22003" "out of range"), tables)
    else
      (.ok { affected := chosen.length },
        tables.put relation ((tables.rows relation).map fun row =>
          if row.meets conditions then add column amount row else row))
  | .delete relation conditions, tables =>
    let kept := (tables.rows relation).filter fun row => !row.meets conditions
    (.ok { affected := (tables.rows relation).length - kept.length }, tables.put relation kept)

end Tables

end Folio.Database
