import Folio.Proofs.Database.Conforming
import Folio.Proofs.Store.Users
import Folio.Proofs.Username

/-!
# Users as rows

A table of users mirrors a user store when its rows are those of the stored users. Every call to
the user store keeps it so and is answered alike: lookups (`lookup_agrees`), creation
(`create_agrees`) and the advance of a generation (`advance_agrees`).
-/

namespace Folio

namespace Users

variable {users : Users} {known : UserId → Prop} {stored : StoredCredentials} {g : Generation}
  {id : UserId}

/-- A user is stored with a password hash and is in a session generation. -/
def Holds (users : Users) (stored : StoredCredentials) (g : Generation) : Prop :=
  users.records.get? stored.user.id = some stored ∧ users.generation? stored.user.id = some g

theorem find_of_holds (held : users.Holds stored g) :
    users.find? stored.user.id = some stored.user := by
  unfold find?
  rw [held.1]
  rfl

theorem credentials_of_holds (sound : Sound known users) (held : users.Holds stored g) :
    users.credentials? stored.user.username = some stored := by
  obtain ⟨_, index⟩ := sound.recorded _ _ held.1
  unfold credentials?
  rw [index]
  exact held.1

theorem holds_of_record (sound : Sound known users) (record : users.records.get? id = some stored) :
    stored.user.id = id ∧ ∃ g, users.Holds stored g := by
  obtain ⟨rfl, _⟩ := sound.recorded id stored record
  obtain ⟨g, current⟩ := generation_of_record sound record
  exact ⟨rfl, g, record, current⟩

theorem holds_of_find (sound : Sound known users) (found : users.find? id ≠ none) :
    ∃ stored g, users.Holds stored g ∧ stored.user.id = id := by
  obtain ⟨user, found⟩ := Option.ne_none_iff_exists'.mp found
  obtain ⟨stored, record, _⟩ := Option.map_eq_some_iff.mp found
  obtain ⟨own, g, held⟩ := holds_of_record sound record
  exact ⟨stored, g, held, own⟩

theorem holds_of_generation (sound : Sound known users) (found : users.generation? id ≠ none) :
    ∃ stored g, users.Holds stored g ∧ stored.user.id = id := by
  obtain ⟨g, current⟩ := Option.ne_none_iff_exists'.mp found
  obtain ⟨user, stored⟩ := find_of_generation sound current
  exact holds_of_find sound (by simp [stored])

theorem holds_of_index (sound : Sound known users) {name : Username}
    (found : users.ids.get? name ≠ none) :
    ∃ stored g, users.Holds stored g ∧ stored.user.username = name := by
  obtain ⟨id, index⟩ := Option.ne_none_iff_exists'.mp found
  obtain ⟨hash, record⟩ := sound.indexed name id index
  obtain ⟨_, g, held⟩ := holds_of_record sound record
  exact ⟨_, g, held, rfl⟩

theorem holds_of_credentials (sound : Sound known users) {name : Username}
    (found : users.credentials? name ≠ none) :
    ∃ stored g, users.Holds stored g ∧ stored.user.username = name :=
  holds_of_index sound fun absent => found ((credentials_none sound name).mpr absent)

theorem holds_added {user : User} {hash : PasswordHash} (new : users.find? user.id = none) :
    (users.added user hash).Holds stored g ↔
      stored = ⟨user, hash⟩ ∧ g = .initial ∨ users.Holds stored g := by
  unfold Holds
  rw [generation_added]
  unfold added
  rw [Table.get?_insert]
  by_cases same : user.id = stored.user.id
  · have absent : users.records.get? stored.user.id = none := by
      rw [← same]
      exact Option.map_eq_none_iff.mp new
    simp [same, absent, eq_comm]
  · have different : stored ≠ ⟨user, hash⟩ := by
      rintro rfl
      exact same rfl
    simp [same, different]

theorem holds_advance :
    (users.advance id).Holds stored g ↔
      ∃ before, users.Holds stored before ∧
        g = if id = stored.user.id then before.next else before := by
  unfold Holds
  rw [advance_records, generation_advance]
  split
  · simp only [Option.map_eq_some_iff, and_assoc, exists_and_left, @eq_comm _ g]
  · simp

end Users

namespace Database

/-- A row holds a user with the password hash and the session generation. -/
structure Describes (row : Row) (stored : StoredCredentials) (g : Generation) : Prop where
  id : row .id = .uuid stored.user.id.uuid
  username : row .username = .text stored.user.username.text
  passwordHash : row .passwordHash = .text stored.hash.encoded
  generation : row .sessionGeneration = .int g.value

/-- The rows are those of the users in a store. -/
structure UserRows (users : Users) (rows : List Row) : Prop where
  sound : users.Sound (fun id => users.find? id ≠ none)
  described : ∀ row ∈ rows, ∃ stored g, users.Holds stored g ∧ Describes row stored g
  present : ∀ stored g, users.Holds stored g → ∃ row ∈ rows, Describes row stored g

theorem userRows_empty : UserRows .empty [] where
  sound := Users.empty_sound
  described := by intro row member; cases member
  present := by rintro stored g ⟨record, _⟩; cases record

section

variable {row : Row} {stored : StoredCredentials} {g : Generation}

theorem describes_id_iff (describes : Describes row stored g) (id : UserId) :
    row .id = .uuid id.uuid ↔ stored.user.id = id := by
  rw [describes.id, Cell.uuid.injEq]
  exact ⟨fun same => congrArg UserId.mk same, fun same => congrArg UserId.uuid same⟩

theorem describes_username_iff (describes : Describes row stored g) (name : Username) :
    row .username = .text name.text ↔ stored.user.username = name := by
  rw [describes.username, Cell.text.injEq]
  exact ⟨Username.ext_text, fun same => congrArg Username.text same⟩

theorem describes_hasId (describes : Describes row stored g) (id : UserId) :
    row.meets [hasId id] = true ↔ stored.user.id = id := by
  rw [meets_iff (by simp [hasId]), ← describes_id_iff describes]
  simp [hasId]

theorem describes_hasUsername (describes : Describes row stored g) (name : Username) :
    row.meets [hasUsername name] = true ↔ stored.user.username = name := by
  rw [meets_iff (by simp [hasUsername]), ← describes_username_iff describes]
  simp [hasUsername]

theorem userOfRow_user (user : User) : userOfRow user.id.uuid user.username.text = .ok user := by
  unfold userOfRow
  rw [Username.parse_text]

theorem readUser_row (describes : Describes row stored g) :
    readUser (row.project [.id, .username]) = .ok stored.user := by
  show readUser [row .id, row .username] = _
  rw [describes.id, describes.username]
  exact userOfRow_user stored.user

theorem readCredentials_row (describes : Describes row stored g) :
    readCredentials (row.project [.id, .username, .passwordHash]) = .ok stored := by
  show readCredentials [row .id, row .username, row .passwordHash] = _
  rw [describes.id, describes.username, describes.passwordHash]
  dsimp only [readCredentials]
  rw [userOfRow_user]
  rfl

theorem readGeneration_row (describes : Describes row stored g) :
    readGeneration (row.project [.sessionGeneration]) = .ok g := by
  show readGeneration [row .sessionGeneration] = _
  rw [describes.generation]
  have found : Generation.ofInt? g.value = some g := dif_pos ⟨g.lower, g.upper⟩
  dsimp only [readGeneration]
  rw [found]

end

/-! ### Changes of the rows -/

theorem userRows_append {users : Users} {rows : List Row} {user : User} {hash : PasswordHash}
    {row : Row} (mirrored : UserRows users rows) (free : users.ids.get? user.username = none)
    (new : users.find? user.id = none) (describes : Describes row ⟨user, hash⟩ .initial) :
    UserRows (users.added user hash) (rows ++ [row]) where
  sound := Users.sound_stored (Users.added_sound mirrored.sound user hash free (not_not_intro new))
  described := by
    intro other member
    rcases List.mem_append.mp member with before | last
    · obtain ⟨stored, g, held, known⟩ := mirrored.described other before
      exact ⟨stored, g, (Users.holds_added new).mpr (Or.inr held), known⟩
    · obtain rfl := List.mem_singleton.mp last
      exact ⟨_, _, (Users.holds_added new).mpr (Or.inl ⟨rfl, rfl⟩), describes⟩
  present := by
    intro stored g held
    rcases (Users.holds_added new).mp held with ⟨rfl, rfl⟩ | before
    · exact ⟨row, by simp, describes⟩
    · obtain ⟨other, member, known⟩ := mirrored.present stored g before
      exact ⟨other, List.mem_append_left _ member, known⟩

/-- The row after the generation of one user was counted up. -/
def counted (id : UserId) (row : Row) : Row :=
  if row.meets [hasId id] = true then Tables.add .sessionGeneration 1 row else row

theorem describes_counted {row : Row} {stored : StoredCredentials} {g : Generation} {id : UserId}
    (describes : Describes row stored g)
    (below : id = stored.user.id → g.value < Generation.greatest) :
    Describes (counted id row) stored (if id = stored.user.id then g.next else g) := by
  unfold counted
  by_cases own : id = stored.user.id
  · have chosen : row.meets [hasId id] = true := (describes_hasId describes id).mpr own.symm
    have next : (Cell.int (g.value + 1)) = .int g.next.value := by
      rw [Generation.next_value (below own)]
    rw [if_pos chosen, if_pos own]
    unfold Tables.add
    rw [describes.generation]
    exact ⟨describes.id, describes.username, describes.passwordHash, next⟩
  · have passed : ¬row.meets [hasId id] = true :=
      fun chosen => own ((describes_hasId describes id).mp chosen).symm
    rwa [if_neg passed, if_neg own]

theorem not_overflows {row : Row} {stored : StoredCredentials} {g : Generation}
    (describes : Describes row stored g) (below : g.value < Generation.greatest) :
    ¬Tables.overflows .sessionGeneration 1 row = true := by
  have lower := g.lower
  unfold Generation.least at lower
  unfold Generation.greatest at below
  unfold Tables.overflows
  rw [describes.generation]
  simp only [decide_eq_true_eq]
  omega

theorem userRows_counted {users : Users} {rows : List Row} {id : UserId}
    (mirrored : UserRows users rows)
    (below : ∀ g, users.generation? id = some g → g.value < Generation.greatest) :
    UserRows (users.advance id) (rows.map (counted id)) where
  sound := Users.sound_stored (Users.advance_sound mirrored.sound id)
  described := by
    intro row changed
    obtain ⟨before, member, rfl⟩ := List.mem_map.mp changed
    obtain ⟨stored, g, held, known⟩ := mirrored.described before member
    exact ⟨stored, _, Users.holds_advance.mpr ⟨g, held, rfl⟩,
      describes_counted known fun own => below g (own ▸ held.2)⟩
  present := by
    intro stored g advanced
    obtain ⟨before, held, rfl⟩ := Users.holds_advance.mp advanced
    obtain ⟨row, member, known⟩ := mirrored.present stored before held
    exact ⟨counted id row, List.mem_map_of_mem member,
      describes_counted known fun own => below before (own ▸ held.2)⟩

/-! ### Calls -/

section

variable {σ : Type} {send : Statement → σ → Reply × σ} {tables : σ → Tables}
  (otherwise : (c : Call) → σ → c.Reply × σ) {users : Users} {s : σ}

/-- A lookup finds the chosen user, whichever row the database gives. -/
theorem lookup_agrees {α : Type} (conforms : Conforms send tables)
    (mirrored : UserRows users ((tables s).rows .users))
    {read : List Cell → Except UserStoreError α} {columns : List Column} {condition : Condition}
    {chosen : StoredCredentials → Prop} {value : StoredCredentials → Generation → α}
    {expected : Option α}
    (meets : ∀ {row stored g}, Describes row stored g →
      (row.meets [condition] = true ↔ chosen stored))
    (reads : ∀ {row stored g}, Describes row stored g →
      read (row.project columns) = .ok (value stored g))
    (expects : ∀ stored g, users.Holds stored g → chosen stored →
      expected = some (value stored g))
    (only : expected ≠ none → ∃ stored g, users.Holds stored g ∧ chosen stored) :
    firstRow read (send (selectUser columns condition) s).1 = .ok expected
      ∧ tables (send (selectUser columns condition) s).2 = tables s := by
  refine firstRow_select conforms ?_ ?_
  · intro row member met
    obtain ⟨stored, g, held, known⟩ := mirrored.described row member
    rw [reads known, expects stored g held ((meets known).mp met)]
    rfl
  · intro unmet
    by_contra some
    obtain ⟨stored, g, held, wanted⟩ := only some
    obtain ⟨row, member, known⟩ := mirrored.present stored g held
    exact Bool.false_ne_true ((unmet row member).symm.trans ((meets known).mpr wanted))

theorem findUser_agrees (conforms : Conforms send tables)
    (mirrored : UserRows users ((tables s).rows .users)) (id : UserId) :
    (answer none send otherwise (.findUser id) s).1 = .ok (users.find? id)
      ∧ tables (answer none send otherwise (.findUser id) s).2 = tables s :=
  lookup_agrees conforms mirrored (fun known => describes_hasId known id) readUser_row
    (fun _ _ held own => own ▸ Users.find_of_holds held) (Users.holds_of_find mirrored.sound)

theorem findUsername_agrees (conforms : Conforms send tables)
    (mirrored : UserRows users ((tables s).rows .users)) (name : Username) :
    (answer none send otherwise (.findUsername name) s).1 = .ok (users.findUsername? name)
      ∧ tables (answer none send otherwise (.findUsername name) s).2 = tables s := by
  refine lookup_agrees conforms mirrored (fun known => describes_hasUsername known name)
    readUser_row ?_ ?_
  · rintro stored g held rfl
    unfold Users.findUsername?
    rw [Users.credentials_of_holds mirrored.sound held]
    rfl
  · intro found
    exact Users.holds_of_credentials mirrored.sound (mt Users.findUsername_none.mpr found)

theorem findCredentials_agrees (conforms : Conforms send tables)
    (mirrored : UserRows users ((tables s).rows .users)) (name : Username) :
    (answer none send otherwise (.findCredentials name) s).1 = .ok (users.credentials? name)
      ∧ tables (answer none send otherwise (.findCredentials name) s).2 = tables s :=
  lookup_agrees conforms mirrored (fun known => describes_hasUsername known name)
    readCredentials_row
    (fun _ _ held named => named ▸ Users.credentials_of_holds mirrored.sound held)
    (Users.holds_of_credentials mirrored.sound)

theorem readGeneration_agrees (conforms : Conforms send tables)
    (mirrored : UserRows users ((tables s).rows .users)) (id : UserId) :
    (answer none send otherwise (.readGeneration id) s).1 = .ok (users.generation? id)
      ∧ tables (answer none send otherwise (.readGeneration id) s).2 = tables s :=
  lookup_agrees conforms mirrored (fun known => describes_hasId known id) readGeneration_row
    (fun _ _ held own => own ▸ held.2) (Users.holds_of_generation mirrored.sound)

/-- The row of a user who is created. -/
def userRow (user : User) (hash : PasswordHash) (now : Time.Instant) : Row :=
  insertedRow .users [(.id, .uuid user.id.uuid), (.username, .text user.username.text),
    (.passwordHash, .text hash.encoded)] now

theorem describes_userRow (user : User) (hash : PasswordHash) (now : Time.Instant) :
    Describes (userRow user hash now) ⟨user, hash⟩ .initial :=
  ⟨rfl, rfl, rfl, rfl⟩

/-- Under a new id, the only key that a user can repeat is the username. -/
theorem repeatsKey_users_iff {users : Users} {tables : Tables} {row : Row} {user : User}
    {hash : PasswordHash} {g : Generation} (mirrored : UserRows users (tables.rows .users))
    (new : users.find? user.id = none) (describes : Describes row ⟨user, hash⟩ g) :
    tables.repeatsKey .users row = true ↔ users.ids.get? user.username ≠ none := by
  rw [repeatsKey_iff]
  constructor
  · rintro ⟨key, is_key, other, member, same⟩
    obtain ⟨stored, g, held, known⟩ := mirrored.described other member
    have keys : key = [.id] ∨ key = [.username] := by simpa [Relation.keys] using is_key
    rcases keys with rfl | rfl
    · -- A row with the new id would be that of a stored user.
      have own : stored.user.id = user.id :=
        (describes_id_iff known user.id).mp ((same .id (by simp)).trans describes.id)
      rw [← own, Users.find_of_holds held] at new
      cases new
    · have named : stored.user.username = user.username :=
        (describes_username_iff known user.username).mp
          ((same .username (by simp)).trans describes.username)
      obtain ⟨_, index⟩ := mirrored.sound.recorded _ _ held.1
      rw [← named, index]
      simp
  · intro taken
    obtain ⟨stored, g, held, named⟩ := Users.holds_of_index mirrored.sound taken
    obtain ⟨other, member, known⟩ := mirrored.present stored g held
    have same : other .username = row .username :=
      ((describes_username_iff known user.username).mpr named).trans describes.username.symm
    exact ⟨[.username], by simp [Relation.keys], other, member, by simpa using same⟩

theorem create_agrees (conforms : Conforms send tables)
    (mirrored : UserRows users ((tables s).rows .users)) (user : User) (hash : PasswordHash)
    (new : users.find? user.id = none) :
    (answer none send otherwise (.createUser user hash) s).1 = (users.create user hash).1
      ∧ UserRows (users.create user hash).2
        ((tables (answer none send otherwise (.createUser user hash) s).2).rows .users)
      ∧ (tables (answer none send otherwise (.createUser user hash) s).2).rows .follows =
        (tables s).rows .follows := by
  have tells : TellsKeysOnly (created user.username) := by
    intro f g same
    simp only [created, same]
  obtain ⟨now, replied, after⟩ :=
    answer_executes conforms otherwise (c := .createUser user hash) rfl tells nofun s
  have repeats := repeatsKey_users_iff mirrored new (describes_userRow user hash now)
  rw [replied, after]
  dsimp only
  rcases Users.create_cases users user hash with ⟨free, created⟩ | ⟨taken, refused⟩
  · have executed : Tables.execute now (createUser user hash) (tables s) =
        (.ok { affected := 1 },
          (tables s).put .users ((tables s).rows .users ++ [userRow user hash now])) :=
      execute_insert_new (fun repeated => repeats.mp repeated free) Bool.false_ne_true
    rw [created, executed]
    exact ⟨rfl, userRows_append mirrored free new (describes_userRow user hash now), rfl⟩
  · have executed : Tables.execute now (createUser user hash) (tables s) =
        (.error (.refused uniqueViolation "duplicate key"), tables s) :=
      execute_insert_repeated (repeats.mpr taken)
    rw [refused, executed]
    exact ⟨rfl, mirrored, rfl⟩

theorem advance_agrees (conforms : Conforms send tables)
    (mirrored : UserRows users ((tables s).rows .users)) (id : UserId)
    (below : ∀ g, users.generation? id = some g → g.value < Generation.greatest) :
    (answer none send otherwise (.advanceGeneration id) s).1 = .ok ()
      ∧ UserRows (users.advance id)
        ((tables (answer none send otherwise (.advanceGeneration id) s).2).rows .users)
      ∧ (tables (answer none send otherwise (.advanceGeneration id) s).2).rows .follows =
        (tables s).rows .follows := by
  have tells : TellsKeysOnly carriedOut := fun _ _ _ => rfl
  obtain ⟨now, replied, after⟩ :=
    answer_executes conforms otherwise (c := .advanceGeneration id) rfl tells nofun s
  have fits : ¬(((tables s).rows .users).filter (·.meets [hasId id])).any
      (Tables.overflows .sessionGeneration 1) = true := by
    rw [List.any_eq_true]
    rintro ⟨row, chosen, overflows⟩
    obtain ⟨member, met⟩ := List.mem_filter.mp chosen
    obtain ⟨stored, g, held, known⟩ := mirrored.described row member
    obtain rfl := (describes_hasId known id).mp met
    exact not_overflows known (below g held.2) overflows
  have executed :
      Tables.execute now (.increment .users .sessionGeneration 1 [hasId id]) (tables s) =
        (.ok { affected := (((tables s).rows .users).filter (·.meets [hasId id])).length },
          (tables s).put .users (((tables s).rows .users).map (counted id))) :=
    if_neg fits
  rw [replied, after]
  dsimp only
  rw [executed]
  exact ⟨rfl, userRows_counted mirrored below, rfl⟩

end

end Database

end Folio
