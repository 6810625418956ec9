import Folio.Proofs.Database.UserRows
import Folio.Proofs.Program.Sequence
import Folio.Proofs.Store.Follows

/-!
# Stores in memory and stores in a database

Over any sequence of calls to the user store and the follow store, a database that keeps to the
schema gives the replies that the stores in memory give (`stores_interchangeable`). A database
tells a repeated username or edge from its keys, and the stores in memory from what they keep.
-/

namespace Folio.Database

/-! ### Edges as rows -/

/-- The rows are those of the edges in a store. -/
def EdgeRows (follows : Follows) (rows : List Row) : Prop :=
  ∀ edge, follows.contains edge = true ↔ ∃ row ∈ rows, row.meets (isEdge edge) = true

theorem meets_isEdge_iff {row : Row} {edge : FollowEdge} :
    row.meets (isEdge edge) = true ↔
      row .followerId = .uuid edge.follower.uuid ∧
        row .followingId = .uuid edge.following.uuid := by
  rw [meets_iff (by simp [isEdge])]
  simp [isEdge]

theorem isEdge_unique {row : Row} {edge other : FollowEdge}
    (first : row.meets (isEdge edge) = true) (second : row.meets (isEdge other) = true) :
    edge = other := by
  obtain ⟨⟨a⟩, ⟨b⟩⟩ := edge
  obtain ⟨⟨c⟩, ⟨d⟩⟩ := other
  rw [meets_isEdge_iff] at first second
  have followers := Cell.uuid.inj (first.1.symm.trans second.1)
  have followings := Cell.uuid.inj (first.2.symm.trans second.2)
  dsimp only at followers followings
  rw [followers, followings]

theorem edgeRows_empty : EdgeRows .empty [] := by
  intro edge
  simp [Follows.contains, Follows.empty]

theorem edgeRows_append {follows : Follows} {rows : List Row} {row : Row} {edge : FollowEdge}
    (mirrored : EdgeRows follows rows) (met : row.meets (isEdge edge) = true) :
    EdgeRows (follows.added edge) (rows ++ [row]) := by
  intro other
  rw [Follows.contains_added]
  by_cases same : edge = other
  · subst same
    simp only [if_pos, true_iff]
    exact ⟨row, by simp, met⟩
  · have apart : ¬row.meets (isEdge other) = true := fun both => same (isEdge_unique met both)
    rw [if_neg same, mirrored other]
    simp [or_and_right, exists_or, apart]

theorem edgeRows_filter {follows : Follows} {rows : List Row} (mirrored : EdgeRows follows rows)
    (edge : FollowEdge) :
    EdgeRows (follows.delete edge).2 (rows.filter fun row => !row.meets (isEdge edge)) := by
  intro other
  rw [Follows.contains_delete]
  by_cases same : edge = other
  · subst same
    simp
  · rw [if_neg same, mirrored other]
    refine exists_congr fun row => ?_
    rw [List.mem_filter, and_assoc]
    refine and_congr_right fun _ => ?_
    constructor
    · intro met
      refine ⟨?_, met⟩
      by_contra gone
      exact same (isEdge_unique (by simpa using gone) met)
    · exact And.right

theorem any_isEdge {follows : Follows} {rows : List Row} (mirrored : EdgeRows follows rows)
    (edge : FollowEdge) :
    (rows.any fun row => row.meets (isEdge edge)) = follows.contains edge := by
  rw [Bool.eq_iff_iff, List.any_eq_true, mirrored edge]

/-- The row of an edge that is added. -/
def edgeRow (edge : FollowEdge) (now : Time.Instant) : Row :=
  insertedRow .follows [(.followerId, .uuid edge.follower.uuid),
    (.followingId, .uuid edge.following.uuid)] now

theorem edgeRow_meets (edge : FollowEdge) (now : Time.Instant) :
    (edgeRow edge now).meets (isEdge edge) = true :=
  meets_isEdge_iff.mpr ⟨rfl, rfl⟩

theorem repeatsKey_follows_iff {follows : Follows} {tables : Tables}
    (mirrored : EdgeRows follows (tables.rows .follows)) (edge : FollowEdge) (now : Time.Instant) :
    tables.repeatsKey .follows (edgeRow edge now) = true ↔ follows.contains edge = true := by
  rw [repeatsKey_iff, mirrored edge]
  simp only [Relation.keys, exists_eq_left, meets_isEdge_iff, List.mem_cons,
    List.not_mem_nil, or_false, forall_eq_or_imp, forall_eq]
  exact Iff.rfl

theorem owned_edgeRow {users : Users} {tables : Tables}
    (mirrored : UserRows users (tables.rows .users)) {edge : FollowEdge}
    (follower : users.find? edge.follower ≠ none) (following : users.find? edge.following ≠ none)
    (now : Time.Instant) : ¬tables.lacksOwner .follows (edgeRow edge now) = true := by
  have stored : ∀ id, users.find? id ≠ none →
      ∃ row ∈ tables.rows .users, row .id = .uuid id.uuid := by
    intro id found
    obtain ⟨stored, g, held, own⟩ := Users.holds_of_find mirrored.sound found
    obtain ⟨row, member, known⟩ := mirrored.present stored g held
    exact ⟨row, member, (describes_id_iff known id).mpr own⟩
  rw [lacksOwner_iff]
  rintro ⟨column, owner, lacking⟩
  have columns : column = .followerId ∨ column = .followingId := by
    simpa [Relation.owners] using owner
  rcases columns with rfl | rfl
  · obtain ⟨row, member, same⟩ := stored edge.follower follower
    exact lacking row member same
  · obtain ⟨row, member, same⟩ := stored edge.following following
    exact lacking row member same

theorem removes_iff_any (rows : List Row) (conditions : List Condition) :
    decide (0 < rows.length - (rows.filter fun row => !row.meets conditions).length) =
      rows.any fun row => row.meets conditions := by
  rw [Bool.eq_iff_iff, decide_eq_true_eq, Nat.sub_pos_iff_lt,
    List.length_filter_lt_length_iff_exists, List.any_eq_true]
  simp

/-! ### Calls to the follow store -/

section

variable {σ : Type} {send : Statement → σ → Reply × σ} {tables : σ → Tables}
  (otherwise : (c : Call) → σ → c.Reply × σ) {users : Users} {follows : Follows} {s : σ}

theorem edgeExists_agrees (conforms : Conforms send tables)
    (mirrored : EdgeRows follows ((tables s).rows .follows)) (edge : FollowEdge) :
    (answer none send otherwise (.edgeExists edge) s).1 = .ok (follows.contains edge)
      ∧ tables (answer none send otherwise (.edgeExists edge) s).2 = tables s := by
  have tells : TellsKeysOnly edgeFound := fun _ _ _ => rfl
  obtain ⟨now, replied, after⟩ :=
    answer_executes conforms otherwise (c := .edgeExists edge) rfl tells nofun s
  rw [replied, after, ← any_isEdge mirrored edge]
  exact ⟨rfl, rfl⟩

theorem insertEdge_agrees (conforms : Conforms send tables)
    (owners : UserRows users ((tables s).rows .users))
    (mirrored : EdgeRows follows ((tables s).rows .follows)) {edge : FollowEdge}
    (follower : users.find? edge.follower ≠ none) (following : users.find? edge.following ≠ none) :
    (answer none send otherwise (.insertEdge edge) s).1 = (follows.insert edge).1
      ∧ (tables (answer none send otherwise (.insertEdge edge) s).2).rows .users =
        (tables s).rows .users
      ∧ EdgeRows (follows.insert edge).2
        ((tables (answer none send otherwise (.insertEdge edge) s).2).rows .follows) := by
  have tells : TellsKeysOnly edgeInserted := by
    intro f g same
    simp only [edgeInserted, same]
  obtain ⟨now, replied, after⟩ :=
    answer_executes conforms otherwise (c := .insertEdge edge) rfl tells nofun s
  have repeats := repeatsKey_follows_iff mirrored edge now
  rw [replied, after]
  dsimp only
  cases stored : follows.contains edge with
  | true =>
    have executed : Tables.execute now (insertEdge edge) (tables s) =
        (.error (.refused uniqueViolation "duplicate key"), tables s) :=
      execute_insert_repeated (repeats.mpr stored)
    rw [Follows.insert_stored stored, executed]
    exact ⟨rfl, rfl, mirrored⟩
  | false =>
    have unique : ¬(tables s).repeatsKey .follows (edgeRow edge now) = true := by
      rw [repeats, stored]
      exact Bool.false_ne_true
    have executed : Tables.execute now (insertEdge edge) (tables s) =
        (.ok { affected := 1 },
          (tables s).put .follows ((tables s).rows .follows ++ [edgeRow edge now])) :=
      execute_insert_new unique (owned_edgeRow owners follower following now)
    rw [Follows.insert_absent stored, executed]
    exact ⟨rfl, rfl, edgeRows_append mirrored (edgeRow_meets edge now)⟩

theorem deleteEdge_agrees (conforms : Conforms send tables)
    (mirrored : EdgeRows follows ((tables s).rows .follows)) (edge : FollowEdge) :
    (answer none send otherwise (.deleteEdge edge) s).1 = .ok (follows.delete edge).1
      ∧ (tables (answer none send otherwise (.deleteEdge edge) s).2).rows .users =
        (tables s).rows .users
      ∧ EdgeRows (follows.delete edge).2
        ((tables (answer none send otherwise (.deleteEdge edge) s).2).rows .follows) := by
  have tells : TellsKeysOnly edgeDeleted := fun _ _ _ => rfl
  obtain ⟨now, replied, after⟩ :=
    answer_executes conforms otherwise (c := .deleteEdge edge) rfl tells nofun s
  rw [replied, after]
  refine ⟨?_, rfl, edgeRows_filter mirrored edge⟩
  show Except.ok (decide (0 < ((tables s).rows .follows).length - _)) = .ok (follows.contains edge)
  rw [removes_iff_any, any_isEdge mirrored edge]

end

/-! ### Sequences of calls -/

/-- A call to the user store or the follow store that keeps to what both expect: users are created
under new ids, generations are advanced below the greatest one, and edges are added between stored
users. -/
def Orderly : Call → World → Prop
  | .createUser user _, w => w.users.find? user.id = none
  | .advanceGeneration id, w =>
    ∀ g, w.users.generation? id = some g → g.value < Generation.greatest
  | .insertEdge edge, w =>
    w.users.find? edge.follower ≠ none ∧ w.users.find? edge.following ≠ none
  | .findUser _, _ | .findUsername _, _ | .findCredentials _, _ | .readGeneration _, _
  | .edgeExists _, _ | .deleteEdge _, _ => True
  | .listDocuments _, _ | .hashPassword _, _ | .verifyPassword _ _, _ | .publish _, _ => False

/-- The rows are those of the users and edges in a world. -/
structure Mirrors (w : World) (tables : Tables) : Prop where
  users : UserRows w.users (tables.rows .users)
  edges : EdgeRows w.follows (tables.rows .follows)

theorem call_agrees {σ : Type} {send : Statement → σ → Reply × σ} {tables : σ → Tables}
    (conforms : Conforms send tables) (otherwise : (c : Call) → σ → c.Reply × σ)
    (hasher : Password.Hasher) (salt : List UInt8) (c : Call) (w : World) (s : σ)
    (orderly : Orderly c w) (mirrors : Mirrors w (tables s)) :
    (World.answer hasher salt c w).1 = (answer none send otherwise c s).1
      ∧ Mirrors (World.answer hasher salt c w).2
        (tables (answer none send otherwise c s).2) := by
  obtain ⟨users, edges⟩ := mirrors
  -- Each call changes the rows of one relation at most, and the other stays mirrored.
  cases c with
  | createUser user hash =>
    obtain ⟨same, rows, kept⟩ :=
      create_agrees otherwise conforms users user hash orderly
    exact ⟨same.symm, rows, kept ▸ edges⟩
  | findUser id =>
    obtain ⟨same, kept⟩ := findUser_agrees otherwise conforms users id
    exact ⟨same.symm, kept ▸ ⟨users, edges⟩⟩
  | findUsername name =>
    obtain ⟨same, kept⟩ := findUsername_agrees otherwise conforms users name
    exact ⟨same.symm, kept ▸ ⟨users, edges⟩⟩
  | findCredentials name =>
    obtain ⟨same, kept⟩ := findCredentials_agrees otherwise conforms users name
    exact ⟨same.symm, kept ▸ ⟨users, edges⟩⟩
  | readGeneration id =>
    obtain ⟨same, kept⟩ := readGeneration_agrees otherwise conforms users id
    exact ⟨same.symm, kept ▸ ⟨users, edges⟩⟩
  | advanceGeneration id =>
    obtain ⟨same, rows, kept⟩ := advance_agrees otherwise conforms users id orderly
    exact ⟨same.symm, rows, kept ▸ edges⟩
  | edgeExists edge =>
    obtain ⟨same, kept⟩ := edgeExists_agrees otherwise conforms edges edge
    exact ⟨same.symm, kept ▸ ⟨users, edges⟩⟩
  | insertEdge edge =>
    obtain ⟨same, kept, rows⟩ :=
      insertEdge_agrees otherwise conforms users edges orderly.1 orderly.2
    exact ⟨same.symm, kept ▸ users, rows⟩
  | deleteEdge edge =>
    obtain ⟨same, kept, rows⟩ := deleteEdge_agrees otherwise conforms edges edge
    exact ⟨same.symm, kept ▸ users, rows⟩
  | listDocuments query => exact orderly.elim
  | hashPassword password => exact orderly.elim
  | verifyPassword password hash => exact orderly.elim
  | publish event => exact orderly.elim

/-- From empty stores on, a database that keeps to the schema replies to every call as the stores in
memory do. -/
theorem stores_interchangeable {σ : Type} {send : Statement → σ → Reply × σ} {tables : σ → Tables}
    (conforms : Conforms send tables) (otherwise : (c : Call) → σ → c.Reply × σ)
    (hasher : Password.Hasher) (salt : List UInt8) (w : World) (s : σ)
    (no_users : w.users = .empty) (no_edges : w.follows = .empty)
    (no_user_rows : (tables s).rows .users = []) (no_edge_rows : (tables s).rows .follows = [])
    (calls : List Call) (orderly : Calls.Along (World.answer hasher salt) Orderly w calls) :
    Calls.exchanges (answer none send otherwise) s calls =
      Calls.exchanges (World.answer hasher salt) w calls := by
  have start : Mirrors w (tables s) := by
    constructor
    · rw [no_users, no_user_rows]
      exact userRows_empty
    · rw [no_edges, no_edge_rows]
      exact edgeRows_empty
  exact (Calls.exchanges_eq (fun w s => Mirrors w (tables s)) start
    (call_agrees conforms otherwise hasher salt) orderly).symm

def mayDay : Time.Instant :=
  ⟨⟨2024, 5, 1⟩, 4, 5, 6, 7, by decide, by decide, by decide, by decide, by decide⟩

def mia : User :=
  ⟨⟨⟨1⟩⟩, ⟨"mia", by decide, by decide, by decide +kernel⟩⟩

def noa : User :=
  ⟨⟨⟨2⟩⟩, ⟨"noa", by decide, by decide, by decide +kernel⟩⟩

/-- A username is wanted twice, and an edge is added twice and removed twice. -/
def storeCalls : List Call :=
  [.createUser mia ⟨"first"⟩, .createUser noa ⟨"second"⟩,
   .createUser { mia with id := ⟨⟨3⟩⟩ } ⟨"third"⟩, .findCredentials mia.username,
   .insertEdge ⟨mia.id, noa.id⟩, .insertEdge ⟨mia.id, noa.id⟩, .deleteEdge ⟨mia.id, noa.id⟩,
   .deleteEdge ⟨mia.id, noa.id⟩, .advanceGeneration noa.id, .readGeneration noa.id]

theorem stores_interchangeable_rivals :
    Calls.exchanges (answer none (Tables.execute mayDay) besideTables) .empty storeCalls =
      [⟨.createUser mia ⟨"first"⟩, .ok ()⟩, ⟨.createUser noa ⟨"second"⟩, .ok ()⟩,
       ⟨.createUser { mia with id := ⟨⟨3⟩⟩ } ⟨"third"⟩, .error (.usernameTaken "mia")⟩,
       ⟨.findCredentials mia.username, .ok (some ⟨mia, ⟨"first"⟩⟩)⟩,
       ⟨.insertEdge ⟨mia.id, noa.id⟩, .ok ()⟩,
       ⟨.insertEdge ⟨mia.id, noa.id⟩, .error .alreadyExists⟩,
       ⟨.deleteEdge ⟨mia.id, noa.id⟩, .ok true⟩,
       ⟨.deleteEdge ⟨mia.id, noa.id⟩, .ok false⟩,
       ⟨.advanceGeneration noa.id, .ok ()⟩,
       ⟨.readGeneration noa.id, .ok (some ⟨1, by decide, by decide⟩)⟩] := by
  have orderly : Calls.Along (World.answer .standard []) Orderly .initial storeCalls := by
    unfold storeCalls
    simp only [Calls.along_cons, Calls.along_nil, Orderly, and_true, true_and]
    refine ⟨rfl, rfl, rfl, ⟨nofun, nofun⟩, ⟨nofun, nofun⟩, ?_⟩
    intro g current
    cases current
    decide
  rw [stores_interchangeable (execute_conforms mayDay) besideTables .standard [] .initial .empty
    rfl rfl rfl rfl storeCalls orderly]
  rfl

end Folio.Database
