import Folio.Proofs.Program.Sequence
import Folio.Proofs.Store.Users
import Folio.World
import Mathlib.Data.List.Induction

/-!
# The user store over any sequence of calls

As long as users are created under ids that are not stored, index, records and generations stay in
step, whatever calls are made in whatever order. Nothing that is stored is lost or changed but
generations, and a generation counts how often it was advanced.
-/

namespace Folio

namespace Generation

theorem next_value_eq_min (g : Generation) : g.next.value = min (g.value + 1) greatest := by
  have upper := g.upper
  unfold next
  split
  · dsimp only
    omega
  · omega

theorem iterate_initial_value (n : Nat) :
    (next^[n] initial).value = min (n : Int) greatest := by
  induction n with
  | zero => rfl
  | succ n ih =>
    rw [Function.iterate_succ_apply', next_value_eq_min, ih]
    push_cast
    omega

end Generation

/-- A user is created under an id that is not stored. -/
def Call.BringsNewId : Call → Users → Prop
  | createUser user _, users => users.find? user.id = none
  | _, _ => True

/-- A user is created under an id, and the username is free. -/
def Call.StartsOver (id : UserId) : Call → Users → Prop
  | createUser user _, users => user.id = id ∧ users.ids.get? user.username = none
  | _, _ => False

/-! ### One call -/

namespace Users

variable {users after : Users} {c : Call} {id : UserId} {stored : StoredCredentials}

/-- Everything that a call can do to the user store. -/
inductive Change (users : Users) : Call → Users → Prop where
  | kept {c : Call} (still : ∀ id, c ≠ .advanceGeneration id) : Change users c users
  | created {user : User} {hash : PasswordHash} (free : users.ids.get? user.username = none) :
      Change users (.createUser user hash) (users.added user hash)
  | advanced (id : UserId) : Change users (.advanceGeneration id) (users.advance id)

theorem change_sound (change : users.Change c after) (new : c.BringsNewId users)
    (sound : Sound (fun id => users.find? id ≠ none) users) :
    Sound (fun id => after.find? id ≠ none) after := by
  cases change with
  | kept still => exact sound
  | @created user hash free =>
    exact sound_stored (added_sound sound user hash free (not_not_intro new))
  | advanced id => exact sound_stored (advance_sound sound id)

theorem ne_of_new {user : User} (new : users.find? user.id = none)
    (record : users.records.get? id = some stored) : user.id ≠ id := by
  intro same
  unfold find? at new
  rw [same, record] at new
  cases new

theorem change_record (change : users.Change c after) (new : c.BringsNewId users)
    (record : users.records.get? id = some stored) : after.records.get? id = some stored := by
  cases change with
  | kept still => exact record
  | created free =>
    unfold added
    rw [Table.get?_insert, if_neg (ne_of_new new record)]
    exact record
  | advanced other =>
    rw [advance_records]
    exact record

theorem change_generation (change : users.Change c after) (new : c.BringsNewId users)
    (record : users.records.get? id = some stored) {g : Generation}
    (current : users.generation? id = some g) :
    after.generation? id = some (Generation.next^[[c].count (.advanceGeneration id)] g) := by
  cases change with
  | kept still => simp [still id, current]
  | created free =>
    rw [generation_added, if_neg (ne_of_new new record)]
    simp [current]
  | advanced other =>
    rw [generation_advance, current]
    by_cases same : other = id
    · simp [same]
    · simp [same]

/-- A generation falls only when a user is created under the id. -/
theorem change_generation_mono (change : users.Change c after) (own : ¬c.StartsOver id users)
    {g : Generation} (current : users.generation? id = some g) :
    ∃ later, after.generation? id = some later ∧ g.value ≤ later.value := by
  cases change with
  | kept still => exact ⟨g, current, Int.le_refl _⟩
  | @created user hash free =>
    have other : user.id ≠ id := fun same => own ⟨same, free⟩
    exact ⟨g, by rw [generation_added, if_neg other, current], Int.le_refl _⟩
  | advanced other =>
    rw [generation_advance, current]
    by_cases same : other = id
    · have upper := g.upper
      have next := g.next_value_eq_min
      refine ⟨g.next, by rw [if_pos same, Option.map_some], ?_⟩
      omega
    · exact ⟨g, if_neg same, Int.le_refl _⟩

/-- A record that was not there before was brought by the call. -/
theorem change_created (change : users.Change c after) (absent : users.records.get? id = none)
    (record : after.records.get? id = some stored) :
    c = .createUser stored.user stored.hash ∧ stored.user.id = id ∧
      users.ids.get? stored.user.username = none := by
  cases change with
  | kept still =>
    rw [absent] at record
    cases record
  | created free =>
    unfold added at record
    rw [Table.get?_insert] at record
    split at record
    · rename_i same
      cases record
      exact ⟨rfl, same, free⟩
    · rw [absent] at record
      cases record
  | advanced other =>
    rw [advance_records, absent] at record
    cases record

/-! ### What is in step -/

/-- Index, records and generations are in step. -/
structure Consistent (users : Users) : Prop where
  inverse : ∀ name id, users.ids.get? name = some id ↔
    ∃ hash, users.records.get? id = some ⟨⟨id, name⟩, hash⟩
  found : ∀ name user, users.findUsername? name = some user ↔
    users.find? user.id = some user ∧ user.username = name
  distinct : ∀ id other a b, users.find? id = some a → users.find? other = some b →
    a.username = b.username → id = other ∧ a = b
  keys : ∀ id, id ∈ users.records.keys ↔ id ∈ users.generations.keys
  credentials : ∀ name, (users.credentials? name).map (·.user) = users.findUsername? name
  hashes : ∀ name stored, users.credentials? name = some stored →
    users.records.get? stored.user.id = some stored

theorem consistent_of_sound {known : UserId → Prop} (sound : Sound known users) :
    Consistent users where
  inverse := by
    intro name id
    constructor
    · intro index
      exact sound.indexed name id index
    · rintro ⟨hash, record⟩
      exact (sound.recorded id _ record).2
  found := by
    intro name user
    constructor
    · intro found
      obtain ⟨named, stored⟩ := findUsername_some sound found
      exact ⟨stored, named⟩
    · rintro ⟨stored, rfl⟩
      exact (findUsername_of_find sound stored).2
  distinct := by
    intro id other a b first second same
    obtain ⟨a_id, a_found⟩ := findUsername_of_find sound first
    obtain ⟨b_id, b_found⟩ := findUsername_of_find sound second
    rw [same, b_found] at a_found
    cases a_found
    exact ⟨a_id.symm.trans b_id, rfl⟩
  keys := by
    intro id
    have counted := sound.counted id
    rw [Table.get?_eq_none_iff, Table.get?_eq_none_iff] at counted
    exact not_iff_not.mp counted
  credentials := fun _ => rfl
  hashes := fun _ _ found => (credentials_some sound found).2

end Users

theorem World.users_change (hasher : Password.Hasher) (salt : List UInt8) (c : Call) (w : World) :
    w.users.Change c (World.answer hasher salt c w).2.users := by
  cases c with
  | createUser user hash =>
    dsimp only [World.answer]
    rcases Users.create_cases w.users user hash with ⟨free, created⟩ | ⟨_, refused⟩
    · rw [created]
      exact .created free
    · rw [refused]
      exact .kept (by simp)
  | advanceGeneration id => exact .advanced id
  | _ => exact .kept (by simp)

/-! ### Sequences of calls -/

section History

open Calls

variable {hasher : Password.Hasher} {salt : List UInt8} {w : World} {id : UserId}
  {stored : StoredCredentials} {calls : List Call}

def usersAfter (hasher : Password.Hasher) (salt : List UInt8) (w : World) (calls : List Call) :
    Users :=
  (stateAfter (World.answer hasher salt) w calls).users

/-- Whenever calls create a user, the id is not stored. -/
def NewIds (hasher : Password.Hasher) (salt : List UInt8) (w : World) (calls : List Call) : Prop :=
  Along (World.answer hasher salt) (fun c w => c.BringsNewId w.users) w calls

theorem usersAfter_append (before after : List Call) :
    usersAfter hasher salt w (before ++ after) =
      usersAfter hasher salt (stateAfter (World.answer hasher salt) w before) after := by
  unfold usersAfter
  rw [stateAfter_append]

theorem usersAfter_sound (sound : Users.Sound (fun id => w.users.find? id ≠ none) w.users)
    (new : NewIds hasher salt w calls) :
    Users.Sound (fun id => (usersAfter hasher salt w calls).find? id ≠ none)
      (usersAfter hasher salt w calls) := by
  refine along_induction (P := fun w => Users.Sound (fun id => w.users.find? id ≠ none) w.users)
    sound ?_ new
  intro c w here sound
  exact Users.change_sound (World.users_change hasher salt c w) here sound

theorem record_kept (new : NewIds hasher salt w calls)
    (record : w.users.records.get? id = some stored) :
    (usersAfter hasher salt w calls).records.get? id = some stored := by
  refine along_induction (P := fun w => w.users.records.get? id = some stored) record ?_ new
  intro c w here record
  exact Users.change_record (World.users_change hasher salt c w) here record

theorem generation_counts (new : NewIds hasher salt w calls)
    (record : w.users.records.get? id = some stored) {g : Generation}
    (current : w.users.generation? id = some g) :
    (usersAfter hasher salt w calls).generation? id =
      some (Generation.next^[calls.count (.advanceGeneration id)] g) := by
  induction calls generalizing w g with
  | nil => exact current
  | cons c rest ih =>
    obtain ⟨here, later⟩ := along_cons.mp new
    have change := World.users_change hasher salt c w
    have moved := ih later (Users.change_record change here record)
      (Users.change_generation change here record current)
    have counted : (c :: rest).count (.advanceGeneration id) =
        rest.count (.advanceGeneration id) + [c].count (.advanceGeneration id) := by
      rw [← List.singleton_append, List.count_append, Nat.add_comm]
    rw [counted, Function.iterate_add_apply]
    exact moved

/-- No call puts a new user under an id. -/
def NeverStartsOver (hasher : Password.Hasher) (salt : List UInt8) (id : UserId) (w : World)
    (calls : List Call) : Prop :=
  Along (World.answer hasher salt) (fun c w => ¬c.StartsOver id w.users) w calls

theorem generation_mono {g : Generation} (own : NeverStartsOver hasher salt id w calls)
    (current : w.users.generation? id = some g) :
    ∃ later, (usersAfter hasher salt w calls).generation? id = some later ∧
      g.value ≤ later.value := by
  refine along_induction
    (P := fun w => ∃ later, w.users.generation? id = some later ∧ g.value ≤ later.value)
    ⟨g, current, Int.le_refl _⟩ ?_ own
  rintro c w here ⟨before, known, least⟩
  obtain ⟨later, moved, more⟩ :=
    Users.change_generation_mono (World.users_change hasher salt c w) here known
  exact ⟨later, moved, Int.le_trans least more⟩

theorem generation_since_created {user : User} {hash : PasswordHash}
    (free : w.users.ids.get? user.username = none)
    (new : NewIds hasher salt w (.createUser user hash :: calls)) :
    (usersAfter hasher salt w (.createUser user hash :: calls)).generation? user.id =
      some (Generation.next^[calls.count (.advanceGeneration user.id)] .initial) := by
  obtain ⟨_, later⟩ := along_cons.mp new
  have created : (World.answer hasher salt (.createUser user hash) w).2.users =
      w.users.added user hash := by
    dsimp only [World.answer]
    rw [Users.create_free user hash free]
  have record : (World.answer hasher salt (.createUser user hash) w).2.users.records.get? user.id =
      some ⟨user, hash⟩ := by
    rw [created]
    unfold Users.added
    rw [Table.get?_insert, if_pos rfl]
  refine generation_counts later record ?_
  rw [created, Users.generation_added, if_pos rfl]

/-- Whoever is stored was created by one of the calls. -/
theorem created_in_history (start : w.users = .empty) (new : NewIds hasher salt w calls)
    (record : (usersAfter hasher salt w calls).records.get? id = some stored) :
    ∃ before after, calls = before ++ .createUser stored.user stored.hash :: after ∧
      stored.user.id = id ∧
      (usersAfter hasher salt w before).ids.get? stored.user.username = none := by
  induction calls using List.reverseRecOn with
  | nil =>
    unfold usersAfter stateAfter at record
    rw [List.foldl_nil, start] at record
    cases record
  | append_singleton earlier c ih =>
    obtain ⟨before, later⟩ := along_append new
    obtain ⟨here, _⟩ := along_cons.mp later
    have change : (usersAfter hasher salt w earlier).Change c
        (usersAfter hasher salt w (earlier ++ [c])) := by
      rw [usersAfter_append]
      exact World.users_change hasher salt c _
    cases known : (usersAfter hasher salt w earlier).records.get? id with
    | none =>
      obtain ⟨rfl, own, free⟩ := Users.change_created change known record
      exact ⟨earlier, [], rfl, own, free⟩
    | some other =>
      rw [Users.change_record change here known] at record
      cases record
      obtain ⟨first, rest, rfl, created⟩ := ih before known
      exact ⟨first, rest ++ [c], by simp, created⟩

/-- A username is refused exactly when a stored user has it, and then nothing changes. -/
theorem create_refused_iff {known : UserId → Prop} {users : Users}
    (sound : Users.Sound known users) (user : User) (hash : PasswordHash) :
    ((users.create user hash).1 = .error (.usernameTaken user.username.text) ↔
      ∃ id other, users.find? id = some other ∧ other.username = user.username) ∧
    ((users.create user hash).1 ≠ .ok () → (users.create user hash).2 = users) := by
  rcases Users.create_cases users user hash with ⟨free, created⟩ | ⟨taken, refused⟩
  · rw [created]
    have nobody : users.findUsername? user.username = none :=
      Users.findUsername_none.mpr ((Users.credentials_none sound _).mpr free)
    refine ⟨⟨nofun, ?_⟩, fun failed => (failed rfl).elim⟩
    rintro ⟨id, other, found, same⟩
    obtain ⟨_, named⟩ := Users.findUsername_of_find sound found
    rw [same, nobody] at named
    cases named
  · rw [refused]
    refine ⟨⟨fun _ => ?_, fun _ => rfl⟩, fun _ => rfl⟩
    obtain ⟨id, index⟩ := Option.ne_none_iff_exists'.mp taken
    obtain ⟨other, record⟩ := sound.indexed _ id index
    exact ⟨id, ⟨id, user.username⟩, by unfold Users.find?; rw [record]; rfl, rfl⟩

/-- The user store over any sequence of calls. Index, records and generations are in step; what was
stored stays; a username is refused exactly when it is stored, without any change; and the
generation of a user is the number of times that it was advanced since the user was created, up to
the greatest. -/
theorem user_store_history (hasher : Password.Hasher) (salt : List UInt8) (w : World)
    (start : w.users = .empty) (calls : List Call) (new : NewIds hasher salt w calls) :
    (usersAfter hasher salt w calls).Consistent ∧
    (∀ before c after, calls = before ++ c :: after →
      (∀ id stored, (usersAfter hasher salt w before).records.get? id = some stored →
        (usersAfter hasher salt w calls).records.get? id = some stored) ∧
      ∀ user hash, c = .createUser user hash →
        (((usersAfter hasher salt w before).create user hash).1 =
            .error (.usernameTaken user.username.text) ↔
          ∃ id other, (usersAfter hasher salt w before).find? id = some other ∧
            other.username = user.username) ∧
        (((usersAfter hasher salt w before).create user hash).1 ≠ .ok () →
          usersAfter hasher salt w (before ++ [c]) = usersAfter hasher salt w before)) ∧
    ∀ id stored, (usersAfter hasher salt w calls).records.get? id = some stored →
      ∃ before after, calls = before ++ .createUser stored.user stored.hash :: after ∧
        ((usersAfter hasher salt w before).create stored.user stored.hash).1 = .ok () ∧
        ∃ g, (usersAfter hasher salt w calls).generation? id = some g ∧
          g.value = min (after.count (.advanceGeneration id) : Int) Generation.greatest := by
  have empty : Users.Sound (fun id => w.users.find? id ≠ none) w.users := by
    rw [start]
    exact Users.empty_sound
  refine ⟨Users.consistent_of_sound (usersAfter_sound empty new), ?_, ?_⟩
  · rintro before c after rfl
    obtain ⟨earlier, later⟩ := along_append new
    constructor
    · intro id stored record
      rw [usersAfter_append]
      exact record_kept later record
    · rintro user hash rfl
      obtain ⟨refused, unchanged⟩ :=
        create_refused_iff (usersAfter_sound empty earlier) user hash
      refine ⟨refused, ?_⟩
      rw [usersAfter_append]
      exact unchanged
  · intro id stored record
    obtain ⟨before, after, rfl, rfl, free⟩ := created_in_history start new record
    have created := Users.create_free stored.user stored.hash free
    refine ⟨before, after, rfl, by rw [created], ?_⟩
    rw [usersAfter_append, generation_since_created free (along_append new).2]
    exact ⟨_, rfl, Generation.iterate_initial_value _⟩

def una : User :=
  ⟨⟨⟨1⟩⟩, ⟨"una", by decide, by decide, by decide +kernel⟩⟩

/-- Somebody wants a username that is taken, and both ids are advanced. -/
def rivalCalls : List Call :=
  [.createUser una ⟨"first"⟩, .createUser { una with id := ⟨⟨2⟩⟩ } ⟨"second"⟩,
   .advanceGeneration ⟨⟨1⟩⟩, .findUsername una.username, .advanceGeneration ⟨⟨2⟩⟩,
   .advanceGeneration ⟨⟨1⟩⟩]

theorem user_store_history_rivals :
    NewIds .standard [] .initial rivalCalls ∧
      (usersAfter .standard [] .initial rivalCalls).Consistent ∧
      ∃ before after, rivalCalls = before ++ .createUser una ⟨"first"⟩ :: after ∧
        ∃ g, (usersAfter .standard [] .initial rivalCalls).generation? una.id = some g ∧
          g.value = min (after.count (.advanceGeneration una.id) : Int) Generation.greatest := by
  have new : NewIds .standard [] .initial rivalCalls := by
    unfold NewIds rivalCalls
    simp only [along_cons, along_nil, Call.BringsNewId, and_true]
    decide +kernel
  obtain ⟨consistent, _, counted⟩ :=
    user_store_history .standard [] .initial rfl rivalCalls new
  obtain ⟨before, after, split, _, counts⟩ := counted una.id ⟨una, ⟨"first"⟩⟩ (by decide +kernel)
  exact ⟨new, consistent, before, after, split, counts⟩

end History

end Folio
