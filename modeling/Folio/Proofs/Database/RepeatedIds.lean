import Folio.Proofs.Database.Conforming
import Folio.Proofs.Store.UserHistory

/-!
# Ids that are used twice

The schema has a key on the ids of users, so a database refuses a user under a stored id. The store
in memory looks at the username alone: under a stored id and a free username it puts the new user
in the place of the old one. The old username then finds the new user for good, and the sessions of
the first generation count again.
-/

namespace Folio

/-- A user is created under a stored id, and the username is free. -/
def Call.TakesOver : Call → Users → Prop
  | createUser user _, users =>
    users.find? user.id ≠ none ∧ users.ids.get? user.username = none
  | _, _ => False

namespace Users

variable {users after : Users} {c : Call} {name : Username} {user : User} {hash : PasswordHash}

/-! ### One call -/

theorem findUsername_eq : users.findUsername? name = (users.ids.get? name).bind users.find? := by
  unfold findUsername? credentials?
  cases users.ids.get? name with
  | none => rfl
  | some id => rfl

theorem findUsername_added :
    (users.added user hash).findUsername? name =
      if user.username = name then some user
      else (users.ids.get? name).bind fun id =>
        if user.id = id then some user else users.find? id := by
  have index : (users.added user hash).ids.get? name =
      if user.username = name then some user.id else users.ids.get? name :=
    Table.get?_insert _ _ _ _
  rw [findUsername_eq, index]
  split
  · rw [Option.bind_some, find_added, if_pos rfl]
  · congr 1
    funext id
    exact find_added user hash id

theorem change_built (change : users.Change c after) (built : Built users) : Built after := by
  cases change with
  | kept still => exact built
  | @created user hash free =>
    have created := Built.created user hash built
    rwa [create_free user hash free] at created
  | advanced id => exact built.advanced id

/-- Everybody who has a record is found by the username in it. -/
theorem built_named (built : Built users) {id : UserId} {stored : StoredCredentials}
    (record : users.records.get? id = some stored) :
    users.ids.get? stored.user.username = some id := by
  induction built with
  | empty => cases record
  | @created users user hash _ ih =>
    rcases create_cases users user hash with ⟨free, created⟩ | ⟨_, refused⟩
    · rw [created] at record ⊢
      unfold added at record ⊢
      rw [Table.get?_insert] at record ⊢
      split at record
      · rename_i same
        cases record
        rw [if_pos rfl, same]
      · -- The username of another record is taken, and the new one was free.
        have index := ih record
        have apart : user.username ≠ stored.user.username := by
          intro same
          rw [← same, free] at index
          cases index
        rw [if_neg apart, index]
    · rw [refused] at record ⊢
      exact ih record
  | advanced id _ ih =>
    rw [advance_records] at record
    rw [advance_ids]
    exact ih record

/-- A username finds somebody who has another one. -/
def Misnames (users : Users) (name : Username) : Prop :=
  ∃ user, users.findUsername? name = some user ∧ user.username ≠ name

/-- What a user who is created under a stored id and a free username leaves of the one before. -/
structure TakenOver (users after : Users) (user : User) : Prop where
  found : after.find? user.id = some user
  reset : after.generation? user.id = some .initial
  misnamed : ∃ before, users.find? user.id = some before ∧
    users.findUsername? before.username = some before ∧
    after.findUsername? before.username = some user ∧ user.username ≠ before.username
  others : ∀ id, user.id ≠ id →
    after.find? id = users.find? id ∧ after.generation? id = users.generation? id

theorem added_takenOver (built : Built users) (stored : users.find? user.id ≠ none)
    (free : users.ids.get? user.username = none) :
    TakenOver users (users.added user hash) user := by
  obtain ⟨before, found⟩ := Option.ne_none_iff_exists'.mp stored
  obtain ⟨record, recorded, rfl⟩ := Option.map_eq_some_iff.mp found
  have index := built_named built recorded
  have apart : user.username ≠ record.user.username := by
    intro same
    rw [same, index] at free
    cases free
  refine ⟨?_, ?_, ⟨record.user, found, ?_, ?_, apart⟩, ?_⟩
  · rw [find_added, if_pos rfl]
  · rw [generation_added, if_pos rfl]
  · rw [findUsername_eq, index, Option.bind_some, found]
  · rw [findUsername_added, if_neg apart, index, Option.bind_some, if_pos rfl]
  · intro id other
    rw [find_added, if_neg other, generation_added, if_neg other]
    exact ⟨rfl, rfl⟩

/-- Once a username finds somebody else it always will, since it stays taken. -/
theorem change_misnames (change : users.Change c after) (wrong : users.Misnames name) :
    after.Misnames name := by
  obtain ⟨user, found, apart⟩ := wrong
  cases change with
  | kept still => exact ⟨user, found, apart⟩
  | advanced id =>
    refine ⟨user, ?_, apart⟩
    unfold findUsername?
    rw [credentials_advance]
    exact found
  | @created newcomer hash free =>
    rw [findUsername_eq] at found
    obtain ⟨id, index, stored⟩ := Option.bind_eq_some_iff.mp found
    have different : newcomer.username ≠ name := by
      intro same
      rw [same, index] at free
      cases free
    unfold Misnames
    rw [findUsername_added, if_neg different, index, Option.bind_some]
    by_cases again : newcomer.id = id
    · exact ⟨newcomer, if_pos again, different⟩
    · exact ⟨user, by rw [if_neg again, stored], apart⟩

theorem change_sound_of_not_takesOver (change : users.Change c after)
    (own : ¬c.TakesOver users) (sound : Sound (fun id => users.find? id ≠ none) users) :
    Sound (fun id => after.find? id ≠ none) after := by
  cases change with
  | kept still => exact sound
  | @created user hash free =>
    have new : users.find? user.id = none := by
      by_contra stored
      exact own ⟨stored, free⟩
    exact change_sound (.created free) new sound
  | advanced id => exact change_sound (.advanced id) trivial sound

theorem change_generation_le (change : users.Change c after) (own : ¬c.TakesOver users)
    (sound : Sound (fun id => users.find? id ≠ none) users) {id : UserId} {g : Generation}
    (current : users.generation? id = some g) :
    ∃ later, after.generation? id = some later ∧ g.value ≤ later.value := by
  refine change_generation_mono change ?_ current
  cases c with
  | createUser user hash =>
    rintro ⟨rfl, free⟩
    obtain ⟨stored, found⟩ := find_of_generation sound current
    exact own ⟨by rw [found]; exact Option.some_ne_none stored, free⟩
  | _ => exact fun replaced => replaced

theorem change_generation_nonneg (change : users.Change c after)
    (counted : ∀ id g, users.generation? id = some g → 0 ≤ g.value) (id : UserId) (g : Generation)
    (current : after.generation? id = some g) : 0 ≤ g.value := by
  cases change with
  | kept still => exact counted id g current
  | created free =>
    rw [generation_added] at current
    split at current
    · cases current
      exact Int.le_refl _
    · exact counted id g current
  | advanced other =>
    rw [generation_advance] at current
    split at current
    · obtain ⟨before, known, rfl⟩ := Option.map_eq_some_iff.mp current
      have positive := counted id before known
      have upper := before.upper
      have next := before.next_value_eq_min
      omega
    · exact counted id g current

end Users

/-! ### Sequences of calls -/

section History

open Calls

variable {hasher : Password.Hasher} {salt : List UInt8} {w : World} {calls : List Call}

/-- No call puts a user in the place of another. -/
def NoTakeover (hasher : Password.Hasher) (salt : List UInt8) (w : World) (calls : List Call) :
    Prop :=
  Along (World.answer hasher salt) (fun c w => ¬c.TakesOver w.users) w calls

theorem along_always {σ : Type} {answer : (c : Call) → σ → c.Reply × σ} {s : σ}
    (calls : List Call) : Along answer (fun _ _ => True) s calls :=
  fun _ _ _ _ => trivial

theorem usersAfter_built (start : w.users = .empty) (calls : List Call) :
    (usersAfter hasher salt w calls).Built := by
  refine along_induction (P := fun w : World => w.users.Built) ?_ ?_ (along_always calls)
  · rw [start]
    exact .empty
  · intro c w _ built
    exact Users.change_built (World.users_change hasher salt c w) built

theorem usersAfter_misnames {name : Username} (wrong : w.users.Misnames name)
    (calls : List Call) : (usersAfter hasher salt w calls).Misnames name := by
  refine along_induction (P := fun w : World => w.users.Misnames name) wrong ?_ (along_always calls)
  intro c w _ wrong
  exact Users.change_misnames (World.users_change hasher salt c w) wrong

theorem sound_start (start : w.users = .empty) :
    Users.Sound (fun id => w.users.find? id ≠ none) w.users := by
  rw [start]
  exact Users.empty_sound

theorem sound_of_noTakeover (sound : Users.Sound (fun id => w.users.find? id ≠ none) w.users)
    (own : NoTakeover hasher salt w calls) :
    Users.Sound (fun id => (usersAfter hasher salt w calls).find? id ≠ none)
      (usersAfter hasher salt w calls) := by
  refine along_induction (P := fun w => Users.Sound (fun id => w.users.find? id ≠ none) w.users)
    sound ?_ own
  intro c w here sound
  exact Users.change_sound_of_not_takesOver (World.users_change hasher salt c w) here sound

theorem generation_nonneg (start : w.users = .empty) (calls : List Call) (id : UserId)
    (g : Generation) (current : (usersAfter hasher salt w calls).generation? id = some g) :
    0 ≤ g.value := by
  refine along_induction
    (P := fun w : World => ∀ id g, w.users.generation? id = some g → 0 ≤ g.value) ?_ ?_
    (along_always calls) id g current
  · rw [start]
    intro id g found
    cases found
  · intro c w _ counted
    exact Users.change_generation_nonneg (World.users_change hasher salt c w) counted

theorem generation_le_later (sound : Users.Sound (fun id => w.users.find? id ≠ none) w.users)
    (own : NoTakeover hasher salt w calls) {id : UserId} {g : Generation}
    (current : w.users.generation? id = some g) :
    ∃ later, (usersAfter hasher salt w calls).generation? id = some later ∧
      g.value ≤ later.value := by
  have kept := along_induction
    (P := fun w => Users.Sound (fun id => w.users.find? id ≠ none) w.users ∧
      ∃ later, w.users.generation? id = some later ∧ g.value ≤ later.value)
    ⟨sound, g, current, Int.le_refl _⟩ ?_ own
  · exact kept.2
  · rintro c w here ⟨sound, before, known, least⟩
    have change := World.users_change hasher salt c w
    obtain ⟨later, moved, more⟩ := Users.change_generation_le change here sound known
    exact ⟨Users.change_sound_of_not_takesOver change here sound, later, moved,
      Int.le_trans least more⟩

/-- Every username finds its own user exactly as long as nobody was put in the place of another. -/
theorem noTakeover_iff (start : w.users = .empty) (calls : List Call) :
    NoTakeover hasher salt w calls ↔
      ∀ name, ¬(usersAfter hasher salt w calls).Misnames name := by
  constructor
  · rintro own name ⟨user, found, apart⟩
    exact apart (Users.findUsername_some (sound_of_noTakeover (sound_start start) own) found).1
  · intro right before c after split takes
    cases c with
    | createUser user hash =>
      obtain ⟨stored, free⟩ := takes
      have built : (usersAfter hasher salt w before).Built := usersAfter_built start before
      have taken : Users.TakenOver (usersAfter hasher salt w before)
          ((usersAfter hasher salt w before).added user hash) user :=
        Users.added_takenOver built stored free
      obtain ⟨old, _, _, found, apart⟩ := taken.misnamed
      -- What the call leaves is wrong, and stays so through the calls after it.
      refine right old.username ?_
      rw [split, usersAfter_append]
      have created : (World.answer hasher salt (.createUser user hash)
          (stateAfter (World.answer hasher salt) w before)).2.users =
          (usersAfter hasher salt w before).added user hash := by
        dsimp only [World.answer]
        exact congrArg Prod.snd (Users.create_free user hash free)
      refine usersAfter_misnames (w := (World.answer hasher salt (.createUser user hash)
        (stateAfter (World.answer hasher salt) w before)).2) ?_ after
      rw [created]
      exact ⟨user, found, apart⟩
    | _ => exact takes.elim

end History

namespace Database

/-- A database refuses a user under a stored id. -/
theorem createUser_repeated_id {σ : Type} {send : Statement → σ → Reply × σ} {tables : σ → Tables}
    (conforms : Conforms send tables) (otherwise : (c : Call) → σ → c.Reply × σ) (s : σ)
    (user : User) (hash : PasswordHash)
    (stored : ∃ row ∈ (tables s).rows .users, row .id = .uuid user.id.uuid) :
    (answer none send otherwise (.createUser user hash) s).1 =
        .error (.usernameTaken user.username.text)
      ∧ tables (answer none send otherwise (.createUser user hash) s).2 = tables s := by
  obtain ⟨row, member, same⟩ := stored
  have tells : TellsKeysOnly (created user.username) := by
    intro f g equal
    simp only [created, equal]
  obtain ⟨now, replied, after⟩ :=
    answer_executes conforms otherwise (c := .createUser user hash) rfl tells nofun s
  have executed : Tables.execute now (createUser user hash) (tables s) =
      (.error (.refused uniqueViolation "duplicate key"), tables s) := by
    apply execute_insert_repeated
    rw [repeatsKey_iff]
    exact ⟨[.id], by simp [Relation.keys], row, member, List.forall_mem_singleton.mpr same⟩
  rw [replied, after]
  dsimp only
  rw [executed]
  exact ⟨rfl, rfl⟩

/-- Users under stored ids. A database refuses them all and changes nothing. The store in memory
refuses, without a change, those whose username is taken, and puts every other in the place of the
user before. Exactly until that happens every username finds its own user, and until then no
generation goes back to the first. -/
theorem repeated_id_takes_over (hasher : Password.Hasher) (salt : List UInt8) (w : World)
    (start : w.users = .empty) (calls : List Call) {σ : Type} {send : Statement → σ → Reply × σ}
    {tables : σ → Tables} (conforms : Conforms send tables)
    (otherwise : (c : Call) → σ → c.Reply × σ) (s : σ) (user : User) (hash : PasswordHash) :
    ((∃ row ∈ (tables s).rows .users, row .id = .uuid user.id.uuid) →
      (answer none send otherwise (.createUser user hash) s).1 =
          .error (.usernameTaken user.username.text) ∧
        tables (answer none send otherwise (.createUser user hash) s).2 = tables s) ∧
    ((usersAfter hasher salt w calls).find? user.id ≠ none →
      ((usersAfter hasher salt w calls).ids.get? user.username ≠ none →
        (usersAfter hasher salt w calls).create user hash =
          (.error (.usernameTaken user.username.text), usersAfter hasher salt w calls)) ∧
      ((usersAfter hasher salt w calls).ids.get? user.username = none →
        ∃ after, (usersAfter hasher salt w calls).create user hash = (.ok (), after) ∧
          Users.TakenOver (usersAfter hasher salt w calls) after user)) ∧
    (NoTakeover hasher salt w calls ↔
      ∀ name found, (usersAfter hasher salt w calls).findUsername? name = some found →
        found.username = name) ∧
    (NoTakeover hasher salt w calls → ∀ before after, calls = before ++ after →
      ∀ id g, (usersAfter hasher salt w before).generation? id = some g →
        ∃ later, (usersAfter hasher salt w calls).generation? id = some later ∧
          g.value ≤ later.value ∧ (later = .initial → g = .initial)) := by
  refine ⟨createUser_repeated_id conforms otherwise s user hash, ?_, ?_, ?_⟩
  · intro stored
    refine ⟨Users.create_taken user hash, fun free => ?_⟩
    exact ⟨_, Users.create_free user hash free,
      Users.added_takenOver (usersAfter_built start calls) stored free⟩
  · rw [noTakeover_iff start calls]
    simp only [Users.Misnames, not_exists, not_and, not_not]
  · rintro own before after rfl id g current
    obtain ⟨earlier, further⟩ := Calls.along_append own
    have sound := sound_of_noTakeover (sound_start start) earlier
    obtain ⟨later, moved, least⟩ := generation_le_later sound further current
    rw [usersAfter_append]
    refine ⟨later, moved, least, ?_⟩
    rintro rfl
    have positive := generation_nonneg start before id g current
    have zero : Generation.initial.value = 0 := rfl
    cases g with
    | mk value lower upper =>
      have same : value = 0 := by dsimp only at least positive; omega
      subst same
      rfl

def bea : User :=
  ⟨una.id, ⟨"bea", by decide, by decide, by decide +kernel⟩⟩

/-- A user whose sessions were ended once. -/
def endedOnce : List Call :=
  [.createUser una ⟨"first"⟩, .advanceGeneration una.id]

def juneDay : Time.Instant :=
  ⟨⟨2024, 6, 1⟩, 21, 43, 54, 987, by decide, by decide, by decide, by decide, by decide⟩

theorem repeated_id_takes_over_bea :
    NoTakeover .standard [] .initial endedOnce ∧
      (∃ after, (usersAfter .standard [] .initial endedOnce).create bea ⟨"second"⟩ = (.ok (), after) ∧
        Users.TakenOver (usersAfter .standard [] .initial endedOnce) after bea) ∧
      (answer none (Tables.execute juneDay) besideTables (.createUser bea ⟨"second"⟩)
          (Tables.execute juneDay (createUser una ⟨"first"⟩) .empty).2).1 =
        .error (.usernameTaken "bea") := by
  obtain ⟨refused, created, _, _⟩ := repeated_id_takes_over .standard [] .initial rfl endedOnce
    (execute_conforms juneDay) besideTables
    (Tables.execute juneDay (createUser una ⟨"first"⟩) .empty).2 bea ⟨"second"⟩
  have own : NoTakeover .standard [] .initial endedOnce := by
    unfold NoTakeover endedOnce
    simp only [Calls.along_cons, Calls.along_nil, Call.TakesOver, and_true, not_false_eq_true]
    exact fun takes => takes.1 rfl
  refine ⟨own, (created ?_).2 rfl, (refused ?_).1⟩
  · exact Option.some_ne_none una
  · exact ⟨insertedRow .users _ juneDay, List.mem_singleton_self _, rfl⟩

/-- A user under the id of another is taken, and then the username of the other finds the new one and
the generation is the first again. -/
theorem repeated_id_accepted :
    (usersAfter .standard [] .initial endedOnce).find? bea.id = some una ∧
      (usersAfter .standard [] .initial endedOnce).generation? bea.id =
        some ⟨1, by decide, by decide⟩ ∧
      ((usersAfter .standard [] .initial endedOnce).create bea ⟨"second"⟩).1 = .ok () ∧
      ((usersAfter .standard [] .initial endedOnce).create bea ⟨"second"⟩).2.findUsername?
        una.username = some bea ∧
      ((usersAfter .standard [] .initial endedOnce).create bea ⟨"second"⟩).2.generation?
        bea.id = some .initial :=
  ⟨rfl, rfl, rfl, rfl, rfl⟩

end Database

end Folio
