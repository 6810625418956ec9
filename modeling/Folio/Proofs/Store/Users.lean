import Folio.Store.Users
import Mathlib.Logic.Function.Iterate

/-!
# Laws of the user store

What creating a user and advancing a generation do to every lookup, and the invariant of a store
that only takes users under new ids: index, records and generations speak of the same users.
-/

namespace Folio

namespace Generation

theorem least_le_greatest : least ≤ greatest := by decide

theorem next_value {g : Generation} (below : g.value < greatest) : g.next.value = g.value + 1 := by
  unfold next
  rw [dif_pos below]

theorem next_greatest {g : Generation} (last : g.value = greatest) : g.next = g := by
  unfold next
  rw [dif_neg (by omega)]

theorem next_le (g : Generation) : g.next.value ≤ g.value + 1 := by
  unfold next
  split
  · exact Int.le_refl _
  · omega

theorem below_of_next {g : Generation} (below : g.next.value < greatest) : g.value < greatest := by
  by_contra reached
  unfold next at below
  rw [dif_neg reached] at below
  exact reached below

/-- Up to a generation below the greatest one, every step has counted. -/
theorem iterate_next_value {g : Generation} {n m : Nat} (within : n ≤ m)
    (below : (next^[m] g).value < greatest) : (next^[n] g).value = g.value + n := by
  induction m generalizing n with
  | zero =>
    obtain rfl : n = 0 := by omega
    simp
  | succ m ih =>
    rw [Function.iterate_succ_apply'] at below
    have earlier := below_of_next below
    by_cases last : n = m + 1
    · subst last
      rw [Function.iterate_succ_apply', next_value earlier, ih (Nat.le_refl m) earlier]
      push_cast
      omega
    · exact ih (by omega) earlier

theorem ofJson_toJson (g : Generation) : ofJson g.toJson = .ok g := by
  have range : least ≤ g.value ∧ g.value ≤ greatest := ⟨g.lower, g.upper⟩
  have read : (toJson g).asInt64 = .ok g.value := if_pos range
  have found : ofInt? g.value = some g := dif_pos range
  unfold ofJson
  rw [read]
  dsimp only [bind, Except.bind]
  rw [found]
  rfl

end Generation

namespace Users

variable {users : Users} {known : UserId → Prop}

/-! ### Creating -/

/-- The store with a user added, the first session generation included. -/
def added (users : Users) (user : User) (hash : PasswordHash) : Users :=
  { records := users.records.insert user.id ⟨user, hash⟩
    ids := users.ids.insert user.username user.id
    generations := users.generations.insert user.id .initial }

theorem create_free (user : User) (hash : PasswordHash)
    (free : users.ids.get? user.username = none) :
    users.create user hash = (.ok (), users.added user hash) := by
  unfold create Table.contains
  rw [free]
  rfl

theorem create_taken (user : User) (hash : PasswordHash)
    (taken : users.ids.get? user.username ≠ none) :
    users.create user hash = (.error (.usernameTaken user.username.text), users) := by
  unfold create Table.contains
  rw [if_pos (Option.isSome_iff_ne_none.mpr taken)]

theorem generation_added (user : User) (hash : PasswordHash) (id : UserId) :
    (users.added user hash).generation? id =
      if user.id = id then some .initial else users.generation? id :=
  Table.get?_insert _ _ _ _

theorem find_added (user : User) (hash : PasswordHash) (id : UserId) :
    (users.added user hash).find? id = if user.id = id then some user else users.find? id := by
  unfold find? added
  rw [Table.get?_insert]
  split
  · rfl
  · rfl

/-! ### Advancing -/

theorem advance_records (id : UserId) : (users.advance id).records = users.records := by
  unfold advance
  split
  · rfl
  · rfl

theorem advance_ids (id : UserId) : (users.advance id).ids = users.ids := by
  unfold advance
  split
  · rfl
  · rfl

theorem credentials_advance (id : UserId) (name : Username) :
    (users.advance id).credentials? name = users.credentials? name := by
  unfold credentials?
  rw [advance_records, advance_ids]

/-- Advancing moves one user to the next generation and nobody else. -/
theorem generation_advance (id other : UserId) :
    (users.advance id).generation? other =
      if id = other then (users.generation? other).map Generation.next
      else users.generation? other := by
  unfold advance generation?
  cases stored : users.generations.get? id with
  | none =>
    by_cases same : id = other
    · subst same
      rw [if_pos rfl, stored, Option.map_none]
    · rw [if_neg same]
  | some g =>
    dsimp only
    rw [Table.get?_insert]
    by_cases same : id = other
    · subst same
      rw [if_pos rfl, if_pos rfl, stored, Option.map_some]
    · rw [if_neg same, if_neg same]

/-- Advancing does nothing once the generation is the greatest. -/
theorem advance_greatest {id : UserId} {g : Generation}
    (current : users.generation? id = some g) (last : g.value = Generation.greatest) :
    users.advance id = users := by
  unfold generation? at current
  unfold advance
  rw [current]
  dsimp only
  rw [Generation.next_greatest last, Table.insert_stored current]

/-! ### The invariant -/

/-- Index, records and generations speak of the same users, all of them with known ids. -/
structure Sound (known : UserId → Prop) (users : Users) : Prop where
  indexed : ∀ name id, users.ids.get? name = some id →
    ∃ hash, users.records.get? id = some ⟨⟨id, name⟩, hash⟩
  recorded : ∀ id stored, users.records.get? id = some stored →
    stored.user.id = id ∧ users.ids.get? stored.user.username = some id
  counted : ∀ id, users.records.get? id = none ↔ users.generations.get? id = none
  origin : ∀ id, users.records.get? id ≠ none → known id

theorem empty_sound : Sound known empty where
  indexed := by intro name id found; cases found
  recorded := by intro id stored found; cases found
  counted := by intro id; exact ⟨fun _ => rfl, fun _ => rfl⟩
  origin := by intro id found; exact (found rfl).elim

theorem sound_mono {other : UserId → Prop} (sound : Sound known users)
    (more : ∀ id, known id → other id) : Sound other users :=
  { sound with origin := fun id found => more id (sound.origin id found) }

/-- The ids of a sound store are those of its users, whichever others were known. -/
theorem sound_stored (sound : Sound known users) :
    Sound (fun id => users.find? id ≠ none) users := by
  refine { sound with origin := ?_ }
  intro id found
  unfold find?
  rwa [ne_eq, Option.map_eq_none_iff]

theorem advance_sound (sound : Sound known users) (id : UserId) :
    Sound known (users.advance id) where
  indexed := by rw [advance_records, advance_ids]; exact sound.indexed
  recorded := by rw [advance_records, advance_ids]; exact sound.recorded
  counted := by
    intro other
    rw [advance_records, sound.counted other]
    show users.generation? other = none ↔ (users.advance id).generation? other = none
    rw [generation_advance]
    split
    · rw [Option.map_eq_none_iff]
    · exact Iff.rfl
  origin := by rw [advance_records]; exact sound.origin

theorem record_new (sound : Sound known users) {id : UserId} (new : ¬known id) :
    users.records.get? id = none := by
  cases found : users.records.get? id with
  | none => rfl
  | some stored => exact (new (sound.origin id (by rw [found]; simp))).elim

/-- A user under an id that is not known yet can be added to a free username. -/
theorem added_sound (sound : Sound known users) (user : User) (hash : PasswordHash)
    (free : users.ids.get? user.username = none) (new : ¬known user.id) :
    Sound (fun id => known id ∨ id = user.id) (users.added user hash) := by
  have absent := record_new sound new
  unfold added
  refine ⟨?_, ?_, ?_, ?_⟩
  · intro name id found
    rw [Table.get?_insert] at found ⊢
    split at found
    · rename_i same
      cases found
      subst same
      exact ⟨hash, if_pos rfl⟩
    · obtain ⟨other, stored⟩ := sound.indexed name id found
      have different : user.id ≠ id := by
        intro same
        rw [← same, absent] at stored
        cases stored
      exact ⟨other, by rw [if_neg different]; exact stored⟩
  · intro id stored found
    rw [Table.get?_insert] at found ⊢
    split at found
    · rename_i same
      cases found
      exact ⟨same, by rw [if_pos rfl, same]⟩
    · -- Another user with this username would have it in the index.
      obtain ⟨own, index⟩ := sound.recorded id stored found
      have different : user.username ≠ stored.user.username := by
        intro same
        rw [← same, free] at index
        cases index
      exact ⟨own, by rw [if_neg different]; exact index⟩
  · intro id
    rw [Table.get?_insert, Table.get?_insert]
    split
    · simp
    · exact sound.counted id
  · intro id found
    rw [Table.get?_insert] at found
    split at found
    · rename_i same
      exact Or.inr same.symm
    · exact Or.inl (sound.origin id found)

/-! ### What the invariant gives -/

theorem find_new (sound : Sound known users) {id : UserId} (new : ¬known id) :
    users.find? id = none := by
  unfold find?
  rw [record_new sound new]
  rfl

theorem credentials_of_index (sound : Sound known users) {name : Username} {id : UserId}
    (found : users.ids.get? name = some id) :
    ∃ hash, users.credentials? name = some ⟨⟨id, name⟩, hash⟩ := by
  obtain ⟨hash, stored⟩ := sound.indexed name id found
  exact ⟨hash, by unfold credentials?; rw [found]; exact stored⟩

theorem credentials_none (sound : Sound known users) (name : Username) :
    users.credentials? name = none ↔ users.ids.get? name = none := by
  constructor
  · intro none
    cases found : users.ids.get? name with
    | none => rfl
    | some id =>
      obtain ⟨hash, stored⟩ := credentials_of_index sound found
      rw [none] at stored
      cases stored
  · intro none
    unfold credentials?
    rw [none]
    rfl

theorem findUsername_none {name : Username} :
    users.findUsername? name = none ↔ users.credentials? name = none :=
  Option.map_eq_none_iff

theorem credentials_some (sound : Sound known users) {name : Username} {stored : StoredCredentials}
    (found : users.credentials? name = some stored) :
    stored.user.username = name ∧ users.records.get? stored.user.id = some stored := by
  unfold credentials? at found
  cases index : users.ids.get? name with
  | none => rw [index] at found; cases found
  | some id =>
    rw [index] at found
    obtain ⟨hash, record⟩ := sound.indexed name id index
    have same : stored = ⟨⟨id, name⟩, hash⟩ := Option.some.inj (found.symm.trans record)
    subst same
    exact ⟨rfl, record⟩

theorem findUsername_some (sound : Sound known users) {name : Username} {user : User}
    (found : users.findUsername? name = some user) :
    user.username = name ∧ users.find? user.id = some user := by
  obtain ⟨stored, credentials, rfl⟩ := Option.map_eq_some_iff.mp found
  obtain ⟨named, record⟩ := credentials_some sound credentials
  exact ⟨named, by unfold find?; rw [record]; rfl⟩

/-- A stored user is found by id and by username. -/
theorem findUsername_of_find (sound : Sound known users) {id : UserId} {user : User}
    (found : users.find? id = some user) :
    user.id = id ∧ users.findUsername? user.username = some user := by
  obtain ⟨stored, record, rfl⟩ := Option.map_eq_some_iff.mp found
  obtain ⟨own, index⟩ := sound.recorded id stored record
  refine ⟨own, ?_⟩
  unfold findUsername? credentials?
  rw [index]
  show (users.records.get? id).map (·.user) = some stored.user
  rw [record]
  rfl

theorem find_of_generation (sound : Sound known users) {id : UserId} {g : Generation}
    (current : users.generation? id = some g) : ∃ user, users.find? id = some user := by
  cases record : users.records.get? id with
  | none =>
    have absent : users.generation? id = none := (sound.counted id).mp record
    rw [current] at absent
    cases absent
  | some stored => exact ⟨stored.user, by unfold find?; rw [record]; rfl⟩

theorem generation_of_record (sound : Sound known users) {id : UserId} {stored : StoredCredentials}
    (record : users.records.get? id = some stored) : ∃ g, users.generation? id = some g := by
  cases current : users.generation? id with
  | some g => exact ⟨g, rfl⟩
  | none =>
    have absent := (sound.counted id).mpr current
    rw [record] at absent
    cases absent

/-- Adding a user changes the credentials of one username only. -/
theorem credentials_added (sound : Sound known users) (user : User) (hash : PasswordHash)
    (new : ¬known user.id) (name : Username) :
    (users.added user hash).credentials? name =
      if user.username = name then some ⟨user, hash⟩ else users.credentials? name := by
  unfold credentials? added
  dsimp only
  rw [Table.get?_insert]
  split
  · show (users.records.insert user.id ⟨user, hash⟩).get? user.id = _
    rw [Table.get?_insert, if_pos rfl]
  · cases index : users.ids.get? name with
    | none => rfl
    | some id =>
      obtain ⟨other, record⟩ := sound.indexed name id index
      have different : user.id ≠ id := by
        intro same
        exact new (by rw [same]; exact sound.origin id (by rw [record]; simp))
      show (users.records.insert user.id ⟨user, hash⟩).get? id = users.records.get? id
      rw [Table.get?_insert, if_neg different]

/-! ### Stores filled by their own operations -/

/-- A store to which users were added, under whatever ids, and in which generations were advanced.
An id that is used twice leaves two usernames with one record. -/
inductive Built : Users → Prop where
  | empty : Built empty
  | created {users : Users} (user : User) (hash : PasswordHash) :
      Built users → Built (users.create user hash).2
  | advanced {users : Users} (id : UserId) : Built users → Built (users.advance id)

theorem create_cases (users : Users) (user : User) (hash : PasswordHash) :
    users.ids.get? user.username = none ∧
        users.create user hash = (.ok (), users.added user hash) ∨
      users.ids.get? user.username ≠ none ∧
        users.create user hash = (.error (.usernameTaken user.username.text), users) := by
  by_cases free : users.ids.get? user.username = none
  · exact Or.inl ⟨free, create_free user hash free⟩
  · exact Or.inr ⟨free, create_taken user hash free⟩

theorem built_keyed (built : Built users) {id : UserId} {stored : StoredCredentials}
    (record : users.records.get? id = some stored) : stored.user.id = id := by
  induction built with
  | empty => cases record
  | @created users user hash _ ih =>
    rcases create_cases users user hash with ⟨_, created⟩ | ⟨_, refused⟩
    · rw [created] at record
      unfold added at record
      rw [Table.get?_insert] at record
      split at record
      · rename_i same
        cases record
        exact same
      · exact ih record
    · rw [refused] at record
      exact ih record
  | advanced id _ ih =>
    rw [advance_records] at record
    exact ih record

theorem built_indexed (built : Built users) {name : Username} :
    users.credentials? name = none ↔ users.ids.get? name = none := by
  suffices recorded : ∀ id, users.ids.get? name = some id → users.records.get? id ≠ none by
    unfold credentials?
    cases index : users.ids.get? name with
    | none => simp
    | some id => simpa using recorded id index
  induction built with
  | empty => intro id index; cases index
  | @created users user hash _ ih =>
    rcases create_cases users user hash with ⟨_, created⟩ | ⟨_, refused⟩
    · rw [created]
      unfold added
      intro id index
      rw [Table.get?_insert] at index ⊢
      by_cases same : user.id = id
      · simp [same]
      · rw [if_neg same]
        split at index
        · cases index
          exact (same rfl).elim
        · exact ih id index
    · rw [refused]
      exact ih
  | advanced id _ ih =>
    rw [advance_ids, advance_records]
    exact ih

/-- Everybody who has a record has a generation. -/
theorem built_counted (built : Built users) {id : UserId} {stored : StoredCredentials}
    (record : users.records.get? id = some stored) : ∃ g, users.generation? id = some g := by
  induction built with
  | empty => cases record
  | @created users user hash _ ih =>
    rcases create_cases users user hash with ⟨_, created⟩ | ⟨_, refused⟩
    · rw [created] at record ⊢
      unfold added at record
      rw [Table.get?_insert] at record
      rw [generation_added]
      split at record
      · rename_i same
        exact ⟨.initial, if_pos same⟩
      · rename_i different
        obtain ⟨g, current⟩ := ih record
        exact ⟨g, by rw [if_neg different]; exact current⟩
    · rw [refused] at record ⊢
      exact ih record
  | @advanced users other _ ih =>
    rw [advance_records] at record
    obtain ⟨g, current⟩ := ih record
    rw [generation_advance, current]
    split
    · exact ⟨g.next, rfl⟩
    · exact ⟨g, rfl⟩

/-- Adding a user under another id and another username keeps credentials as they are. -/
theorem credentials_added_other (built : Built users) {name : Username}
    {stored : StoredCredentials} (found : users.credentials? name = some stored) {user : User}
    (free : users.ids.get? user.username = none) (different : user.id ≠ stored.user.id)
    (hash : PasswordHash) : (users.added user hash).credentials? name = some stored := by
  obtain ⟨id, index, record⟩ := Option.bind_eq_some_iff.mp found
  have apart : user.username ≠ name := by
    intro same
    rw [same, index] at free
    cases free
  have own := built_keyed built record
  unfold credentials? added
  dsimp only
  rw [Table.get?_insert, if_neg apart, index]
  show (users.records.insert user.id ⟨user, hash⟩).get? id = some stored
  rw [Table.get?_insert, if_neg (by rwa [← own]), record]

end Users

end Folio
