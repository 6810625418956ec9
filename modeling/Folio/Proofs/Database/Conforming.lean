import Folio.Database.Schema
import Folio.Database.Stores
import Folio.World

/-!
# Databases that keep to the schema

A database may hold its rows as it likes, give the rows of a query in any order that the query
allows and word its failures in its own way. `Conforms` says what it owes to its callers, and
`execute_conforms` that the tables of the schema are such a database.
-/

namespace Folio.Database

/-- Replies that differ in the wording of a failure at most. -/
def Agrees : Reply → Reply → Prop
  | .ok a, .ok b => a = b
  | .error a, .error b => a.isUniqueViolation = b.isUniqueViolation
  | _, _ => False

theorem agrees_refl (reply : Reply) : Agrees reply reply := by
  cases reply with
  | ok result => exact rfl
  | error failure => exact rfl

/-- A database that answers every statement and does what the schema says. `tables` are the rows
behind its state; the time of a statement is its own. -/
structure Conforms {σ : Type} (send : Statement → σ → Reply × σ) (tables : σ → Tables) : Prop where
  selects : ∀ query s, ∃ result, (send (.select query) s).1 = .ok result
    ∧ query.Admits ((tables s).rows query.relation) result.rows
    ∧ tables (send (.select query) s).2 = tables s
  executes : ∀ statement s, (∀ query, statement ≠ .select query) →
    ∃ now, Agrees (send statement s).1 (Tables.execute now statement (tables s)).1
      ∧ tables (send statement s).2 = (Tables.execute now statement (tables s)).2

/-! ### The tables themselves -/

theorem notBefore_trans (column : Column) (a b c : Row) (first : Row.notBefore column a b = true)
    (second : Row.notBefore column b c = true) : Row.notBefore column a c = true := by
  simp only [Row.notBefore, decide_eq_true_eq] at *
  omega

theorem notBefore_total (column : Column) (a b : Row) :
    (Row.notBefore column a b || Row.notBefore column b a) = true := by
  simp only [Row.notBefore, Bool.or_eq_true, decide_eq_true_eq]
  omega

theorem evaluate_admits (query : Query) (rows : List Row) :
    query.Admits rows (query.evaluate rows) := by
  unfold Query.evaluate
  cases asked : query.latestFirst with
  | none => exact ⟨_, List.Perm.refl _, by simp [asked], rfl⟩
  | some column =>
    refine ⟨_, List.mergeSort_perm _ _, ?_, rfl⟩
    intro other same
    cases asked.symm.trans same
    exact List.pairwise_mergeSort (notBefore_trans column) (notBefore_total column) _

theorem execute_conforms (now : Time.Instant) : Conforms (Tables.execute now) id where
  selects := fun query tables => ⟨_, rfl, evaluate_admits query (tables.rows query.relation), rfl⟩
  executes := fun _ _ _ => ⟨now, agrees_refl _, rfl⟩

/-- The row that an insertion adds: the values given, and defaults for all other columns. -/
def insertedRow (relation : Relation) (values : List (Column × Cell)) (now : Time.Instant) : Row :=
  fun column => (values.lookup column).getD (relation.default now column)

theorem repeatsKey_iff {tables : Tables} {relation : Relation} {row : Row} :
    tables.repeatsKey relation row = true ↔
      ∃ key ∈ relation.keys, ∃ other ∈ tables.rows relation,
        ∀ column ∈ key, other column = row column := by
  simp [Tables.repeatsKey]

theorem lacksOwner_iff {tables : Tables} {relation : Relation} {row : Row} :
    tables.lacksOwner relation row = true ↔
      ∃ column ∈ relation.owners, ∀ user ∈ tables.rows .users, user .id ≠ row column := by
  simp [Tables.lacksOwner]

theorem execute_insert_repeated {tables : Tables} {relation : Relation}
    {values : List (Column × Cell)} {now : Time.Instant}
    (repeats : tables.repeatsKey relation (insertedRow relation values now) = true) :
    Tables.execute now (.insert relation values) tables =
      (.error (.refused uniqueViolation "duplicate key"), tables) :=
  if_pos repeats

theorem execute_insert_new {tables : Tables} {relation : Relation}
    {values : List (Column × Cell)} {now : Time.Instant}
    (unique : ¬tables.repeatsKey relation (insertedRow relation values now) = true)
    (owned : ¬tables.lacksOwner relation (insertedRow relation values now) = true) :
    Tables.execute now (.insert relation values) tables =
      (.ok { affected := 1 }, tables.put relation
        (tables.rows relation ++ [insertedRow relation values now])) :=
  (if_neg unique).trans (if_neg owned)

/-- Answers the calls that are not for a store beside tables, and leaves the tables alone. -/
def besideTables (c : Call) (tables : Tables) : c.Reply × Tables :=
  ((World.answer .standard [] c .initial).1, tables)

/-! ### Rows that meet conditions -/

theorem holds_iff {condition : Condition} {row : Row} (given : condition.value ≠ .null) :
    condition.holds row = true ↔ row condition.column = condition.value := by
  unfold Condition.holds
  rw [Bool.and_eq_true, decide_eq_true_eq, beq_iff_eq]
  exact ⟨And.right, fun same => ⟨same ▸ given, same⟩⟩

theorem meets_iff {conditions : List Condition} {row : Row}
    (given : ∀ condition ∈ conditions, condition.value ≠ .null) :
    row.meets conditions = true ↔
      ∀ condition ∈ conditions, row condition.column = condition.value := by
  unfold Row.meets
  rw [List.all_eq_true]
  exact forall₂_congr fun condition member => holds_iff (given condition member)

/-- A query for one row finds one that meets the conditions, if there is any. -/
theorem admits_one {query : Query} {rows : List Row} {found : List (List Cell)}
    (one : query.limit = some 1) (admits : query.Admits rows found) :
    (found = [] ∧ ∀ row ∈ rows, row.meets query.conditions = false) ∨
      ∃ row ∈ rows, row.meets query.conditions = true ∧ found = [row.project query.columns] := by
  obtain ⟨ordered, perm, _, rfl⟩ := admits
  unfold Query.cut
  rw [one]
  cases ordered with
  | nil =>
    refine Or.inl ⟨rfl, ?_⟩
    intro row member
    have none : rows.filter (fun row => row.meets query.conditions) = [] := perm.nil_eq.symm
    simpa using List.filter_eq_nil_iff.mp none row member
  | cons row rest =>
    obtain ⟨member, met⟩ := List.mem_filter.mp (perm.mem_iff.mp List.mem_cons_self)
    exact Or.inr ⟨row, member, met, rfl⟩

/-! ### Calls through a conforming database -/

section

variable {σ : Type} {send : Statement → σ → Reply × σ} {tables : σ → Tables}

/-- A reader that looks at a failure only to see whether a key was repeated. -/
def TellsKeysOnly {α : Type} (read : Reply → α) : Prop :=
  ∀ f g : Failure, f.isUniqueViolation = g.isUniqueViolation → read (.error f) = read (.error g)

theorem read_eq_of_agrees {α : Type} {read : Reply → α} (tells : TellsKeysOnly read) {a b : Reply}
    (agrees : Agrees a b) : read a = read b := by
  cases a with
  | ok a =>
    cases b with
    | ok b => exact congrArg (fun result => read (.ok result)) agrees
    | error b => exact agrees.elim
  | error a =>
    cases b with
    | ok b => exact agrees.elim
    | error b => exact tells a b agrees

/-- A call that is no query is answered as the tables would answer it at some time. -/
theorem answer_executes (conforms : Conforms send tables)
    (otherwise : (c : Call) → σ → c.Reply × σ) {c : Call} {access : Access c}
    (through : access? c = some access) (tells : TellsKeysOnly access.read)
    (no_query : ∀ query, access.statement ≠ .select query) (s : σ) :
    ∃ now, (answer none send otherwise c s).1 =
        access.read (Tables.execute now access.statement (tables s)).1
      ∧ tables (answer none send otherwise c s).2 =
        (Tables.execute now access.statement (tables s)).2 := by
  obtain ⟨now, agrees, after⟩ := conforms.executes access.statement s no_query
  refine ⟨now, ?_, ?_⟩
  · unfold answer
    rw [through]
    exact read_eq_of_agrees tells agrees
  · unfold answer
    rw [through]
    exact after

/-- A call that looks up one user reads a row that meets the condition, if there is any. -/
theorem firstRow_select {α : Type} (conforms : Conforms send tables)
    {read : List Cell → Except UserStoreError α} {columns : List Column} {condition : Condition}
    {expected : Option α} {s : σ}
    (found : ∀ row ∈ (tables s).rows .users, row.meets [condition] = true →
      (read (row.project columns)).map some = .ok expected)
    (absent : (∀ row ∈ (tables s).rows .users, row.meets [condition] = false) →
      expected = none) :
    firstRow read (send (selectUser columns condition) s).1 = .ok expected
      ∧ tables (send (selectUser columns condition) s).2 = tables s := by
  obtain ⟨result, replied, admits, kept⟩ := conforms.selects
    { relation := .users, columns, conditions := [condition], limit := some 1 } s
  unfold selectUser
  refine ⟨?_, kept⟩
  rw [replied]
  dsimp only [firstRow]
  rcases admits_one rfl admits with ⟨empty, unmet⟩ | ⟨row, member, met, one⟩
  · rw [empty, absent unmet]
  · rw [one]
    exact found row member met

end

end Folio.Database
