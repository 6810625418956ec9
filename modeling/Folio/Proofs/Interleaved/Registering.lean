import Folio.Proofs.Account
import Folio.Proofs.Http.FollowLog
import Folio.Proofs.Program.Calls

/-!
# Registering at the same time

Registrations take turns over one user store. A password is hashed between the look for a username
and the creation of its user, so that any number of registrations can find one username free; the
store lets the first creation through and refuses all others.
-/

/-- A username was found taken, by a look for it or by trying to take it. -/
def Folio.Exchange.meets (name : Folio.Username) : Folio.Exchange → Bool
  | ⟨.findUsername n, .ok (some _)⟩ => n = name
  | ⟨.createUser user _, .error _⟩ => user.username = name
  | _ => false

namespace Folio.Account

open Program

/-- A registration with what is made for it: an id, and a salt for its password. -/
structure Enrollment where
  trace : Option TraceId
  fresh : UserId
  salt : List UInt8
  registration : Registration

namespace Enrollment

def name (e : Enrollment) : Username :=
  e.registration.username

def user (e : Enrollment) : User :=
  ⟨e.fresh, e.name⟩

def program (e : Enrollment) : Program (Except Problem User) :=
  (register e.trace e.fresh e.registration).run

end Enrollment

variable {hasher : Password.Hasher}

/-! ### One registration -/

/-- The ways in which a registration ends: its username is found taken, somebody else is quicker to
take it, or its user is created. -/
inductive EnrollEnd (e : Enrollment) (hash : PasswordHash) :
    List Exchange → Except Problem User → Prop where
  | known (other : User) :
      EnrollEnd e hash [⟨.findUsername e.name, .ok (some other)⟩] (.error (nameTaken e.trace))
  | overtaken (reason : UserStoreError) :
      EnrollEnd e hash [⟨.findUsername e.name, .ok none⟩,
        ⟨.hashPassword e.registration.password, .ok hash⟩,
        ⟨.createUser e.user hash, .error reason⟩] (.error (nameTaken e.trace))
  | created :
      EnrollEnd e hash [⟨.findUsername e.name, .ok none⟩,
        ⟨.hashPassword e.registration.password, .ok hash⟩,
        ⟨.createUser e.user hash, .ok ()⟩] (.ok e.user)

/-- A registration at some point of its run: it has ended in one of the ways, or it has not come to
the creation of its user yet. -/
def EnrollPoint (e : Enrollment) (hash : PasswordHash) (own : List Exchange)
    (outcome : Option (Outcome (Except Problem User))) : Prop :=
  (∃ result, outcome = some (.finished result) ∧ EnrollEnd e hash own result) ∨
    outcome = none ∧ ∀ x ∈ own, x.call.creates = false

theorem run_refuseTaken {α : Type} (trace : Option TraceId) :
    (refuseTaken trace : Service α).run = .done (.error (nameTaken trace)) :=
  Service.run_refuseWith
    (Problem.new_of_visible trace .invalidRequest (nameTaken trace).message_visible) _

theorem throughout_register (e : Enrollment) {hash : PasswordHash}
    (hashed : hasher.hash e.salt e.registration.password = .ok hash) :
    e.program.Throughout
      (fun x => ∃ w, (World.answer hasher e.salt x.call w).1 = x.reply) (EnrollPoint e hash) := by
  refine Service.throughout_ask_bind (Or.inr ⟨rfl, by simp⟩) ?_
  rintro reply ⟨w, answered⟩
  dsimp only [World.answer] at answered
  subst answered
  rw [Service.orElse_ok_bind]
  cases w.users.findUsername? e.registration.username with
  | some other =>
    rw [if_pos Option.isSome_some, run_refuseTaken]
    exact .done (Or.inl ⟨_, rfl, .known other⟩)
  | none =>
    rw [if_neg (by simp)]
    refine Service.throughout_ask_bind (Or.inr ⟨rfl, by simp [Call.creates]⟩) ?_
    rintro reply ⟨w, answered⟩
    dsimp only [World.answer] at answered
    rw [hashed] at answered
    subst answered
    rw [Service.orElse_ok_bind]
    refine Service.throughout_ask_bind (Or.inr ⟨rfl, by simp [Call.creates]⟩) ?_
    rintro reply ⟨w, answered⟩
    dsimp only [World.answer] at answered
    -- The store decides by what it holds now, not by what the look found.
    rcases Users.create_cases w.users e.user hash with ⟨_, created⟩ | ⟨_, refused⟩
    · have accepted : reply = .ok () := by
        rw [← answered]
        exact congrArg Prod.fst created
      subst accepted
      exact .done (Or.inl ⟨_, rfl, .created⟩)
    · have taken : reply = .error (.usernameTaken e.user.username.text) := by
        rw [← answered]
        exact congrArg Prod.fst refused
      subst taken
      have ends : (Service.orElse (.error (.usernameTaken e.user.username.text))
          (onUserError e.trace) : Service Unit).run = .done (.error (nameTaken e.trace)) :=
        run_refuseTaken e.trace
      rw [Service.run_bind_error _ ends]
      exact .done (Or.inl ⟨_, rfl, .overtaken _⟩)

/-! ### The common history -/

section History

variable {ι : Type} {start users : Users} {enrollments : ι → Enrollment}
  {h : List (ι × Exchange)} {i : ι}

/-- What every call of a registration keeps, of the history and the user store. -/
structure Enrolled (start : Users) (enrollments : ι → Enrollment) (h : List (ι × Exchange))
    (users : Users) : Prop where
  built : users.Built
  own : ∀ i user hash reply, (i, ⟨.createUser user hash, reply⟩) ∈ h →
    user = (enrollments i).user
  met : ∀ entry ∈ h, ∀ name, entry.2.meets name = true → users.ids.get? name ≠ none
  created : ∀ i user hash, (i, ⟨.createUser user hash, .ok ()⟩) ∈ h →
    start.ids.get? user.username = none ∧ users.credentials? user.username = some ⟨user, hash⟩
  origin : ∀ name, users.ids.get? name ≠ none → start.ids.get? name ≠ none ∨
    ∃ i user hash, user.username = name ∧ (i, ⟨.createUser user hash, .ok ()⟩) ∈ h
  kept : ∀ name stored, start.credentials? name = some stored →
    users.credentials? name = some stored ∧
      users.generation? stored.user.id = start.generation? stored.user.id

theorem enrolled_start (built : start.Built) : Enrolled start enrollments [] start where
  built := built
  own := by simp
  met := by simp
  created := by simp
  origin := fun _ found => Or.inl found
  kept := fun _ _ found => ⟨found, rfl⟩

theorem enrolled_unchanged {e : Exchange} (enrolled : Enrolled start enrollments h users)
    (own : ∀ user hash reply, e = ⟨.createUser user hash, reply⟩ → user = (enrollments i).user)
    (refused : ∀ user hash, e ≠ ⟨.createUser user hash, .ok ()⟩)
    (met : ∀ name, e.meets name = true → users.ids.get? name ≠ none) :
    Enrolled start enrollments (h ++ [(i, e)]) users where
  built := enrolled.built
  own := by
    intro j user hash reply member
    rcases List.mem_append.mp member with earlier | here
    · exact enrolled.own j user hash reply earlier
    · obtain ⟨rfl, same⟩ := Prod.mk.inj (List.mem_singleton.mp here)
      exact own user hash reply same.symm
  met := by
    intro entry member
    rcases List.mem_append.mp member with earlier | here
    · exact enrolled.met entry earlier
    · rw [List.mem_singleton.mp here]
      exact met
  created := by
    intro j user hash member
    rcases List.mem_append.mp member with earlier | here
    · exact enrolled.created j user hash earlier
    · exact (refused user hash (Prod.mk.inj (List.mem_singleton.mp here)).2.symm).elim
  origin := by
    intro name found
    rcases enrolled.origin name found with before | ⟨j, user, hash, named, member⟩
    · exact Or.inl before
    · exact Or.inr ⟨j, user, hash, named, List.mem_append_left _ member⟩
  kept := enrolled.kept

/-- A username that is free has been free all the time. -/
theorem free_before {name : Username} (enrolled : Enrolled start enrollments h users)
    (began : start.Built) (free : users.ids.get? name = none) : start.ids.get? name = none := by
  rw [← Users.built_indexed enrolled.built] at free
  rw [← Users.built_indexed began]
  cases found : start.credentials? name with
  | none => rfl
  | some stored =>
    rw [(enrolled.kept name stored found).1] at free
    cases free

theorem fresh_ne_of_credentials {id : UserId} {name : Username} {stored : StoredCredentials}
    (began : start.Built) (new : start.find? id = none)
    (found : start.credentials? name = some stored) : id ≠ stored.user.id := by
  rintro rfl
  obtain ⟨key, _, record⟩ := Option.bind_eq_some_iff.mp found
  rw [Users.built_keyed began record] at new
  unfold Users.find? at new
  rw [record] at new
  cases new

theorem enrolled_created {hash : PasswordHash} (enrolled : Enrolled start enrollments h users)
    (began : start.Built) (distinct : Function.Injective fun i => (enrollments i).fresh)
    (new : ∀ i, start.find? (enrollments i).fresh = none)
    (free : users.ids.get? (enrollments i).user.username = none) :
    Enrolled start enrollments (h ++ [(i, ⟨.createUser (enrollments i).user hash, .ok ()⟩)])
      (users.added (enrollments i).user hash) where
  built := by
    have built := Users.Built.created (enrollments i).user hash enrolled.built
    rwa [Users.create_free _ _ free] at built
  own := by
    intro j user other reply member
    rcases List.mem_append.mp member with earlier | here
    · exact enrolled.own j user other reply earlier
    · obtain ⟨rfl, same⟩ := Prod.mk.inj (List.mem_singleton.mp here)
      cases same
      rfl
  met := by
    intro entry member name found
    rcases List.mem_append.mp member with earlier | here
    · have taken := enrolled.met entry earlier name found
      unfold Users.added
      rw [Table.get?_insert]
      split
      · simp
      · exact taken
    · rw [List.mem_singleton.mp here] at found
      cases found
  created := by
    intro j user other member
    rcases List.mem_append.mp member with earlier | here
    · obtain ⟨absent, found⟩ := enrolled.created j user other earlier
      refine ⟨absent, Users.credentials_added_other enrolled.built found free ?_ hash⟩
      -- The same id would be the same registration, whose username is not free any more.
      intro same
      have mine := enrolled.own j user other _ earlier
      subst mine
      have equal : i = j := distinct same
      subst equal
      rw [(Users.built_indexed enrolled.built).mpr free] at found
      cases found
    · obtain ⟨rfl, same⟩ := Prod.mk.inj (List.mem_singleton.mp here)
      cases same
      refine ⟨free_before enrolled began free, ?_⟩
      unfold Users.credentials? Users.added
      dsimp only
      rw [Table.get?_insert, if_pos rfl]
      exact (Table.get?_insert _ _ _ _).trans (if_pos rfl)
  origin := by
    intro name found
    by_cases same : (enrollments i).user.username = name
    · exact Or.inr ⟨i, _, hash, same, by simp⟩
    · unfold Users.added at found
      rw [Table.get?_insert, if_neg same] at found
      rcases enrolled.origin name found with before | ⟨j, user, other, named, member⟩
      · exact Or.inl before
      · exact Or.inr ⟨j, user, other, named, List.mem_append_left _ member⟩
  kept := by
    intro name stored found
    have different : (enrollments i).user.id ≠ stored.user.id :=
      fresh_ne_of_credentials began (new i) found
    obtain ⟨credentials, generation⟩ := enrolled.kept name stored found
    refine ⟨Users.credentials_added_other enrolled.built credentials free different hash, ?_⟩
    rw [Users.generation_added, if_neg different, generation]

theorem taken_of_meets {salt : List UInt8} {w : World} {name : Username} {c : Call}
    (built : w.users.Built)
    (found : Exchange.meets name ⟨c, (World.answer hasher salt c w).1⟩ = true) :
    w.users.ids.get? name ≠ none := by
  cases c with
  | findUsername n =>
    rw [Ne, ← Users.built_indexed built, ← Users.findUsername_none]
    intro absent
    cases looked : w.users.findUsername? n with
    | none => simp [World.answer, looked, Exchange.meets] at found
    | some user =>
      have same : n = name := by simpa [World.answer, looked, Exchange.meets] using found
      rw [same, absent] at looked
      cases looked
  | createUser user hash =>
    rcases Users.create_cases w.users user hash with ⟨_, created⟩ | ⟨taken, refused⟩
    · simp [World.answer, created, Exchange.meets] at found
    · have same : user.username = name := by
        simpa [World.answer, refused, Exchange.meets] using found
      rwa [← same]
  | _ => simp [Exchange.meets] at found

theorem enrolled_answer {salt : List UInt8} {w : World} {c : Call}
    (enrolled : Enrolled start enrollments h w.users) (began : start.Built)
    (distinct : Function.Injective fun i => (enrollments i).fresh)
    (new : ∀ i, start.find? (enrollments i).fresh = none)
    (made : c = .findUsername (enrollments i).name ∨
      c = .hashPassword (enrollments i).registration.password ∨
      ∃ hash, c = .createUser (enrollments i).user hash) :
    Enrolled start enrollments (h ++ [(i, ⟨c, (World.answer hasher salt c w).1⟩)])
      (World.answer hasher salt c w).2.users := by
  have met : ∀ name, Exchange.meets name ⟨c, (World.answer hasher salt c w).1⟩ = true →
      w.users.ids.get? name ≠ none := fun _ => taken_of_meets enrolled.built
  rcases made with rfl | rfl | ⟨hash, rfl⟩
  · exact enrolled_unchanged enrolled (fun _ _ _ same => by cases same)
      (fun _ _ same => by cases same) met
  · exact enrolled_unchanged enrolled (fun _ _ _ same => by cases same)
      (fun _ _ same => by cases same) met
  · have decides := Users.create_cases w.users (enrollments i).user hash
    dsimp only [World.answer] at met ⊢
    rcases decides with ⟨free, created⟩ | ⟨_, refused⟩
    · rw [created]
      exact enrolled_created enrolled began distinct new free
    · rw [refused] at met ⊢
      exact enrolled_unchanged enrolled (fun _ _ _ same => by cases same; rfl)
        (fun _ _ same => by cases same) met

end History

/-! ### The race -/

section Race

variable {ι : Type} [DecidableEq ι]

def enroll (hasher : Password.Hasher) (w : World) (enrollments : ι → Enrollment)
    (schedule : List ι) : Moment ι (fun _ => Except Problem User) World :=
  (Moment.start (fun i => (enrollments i).program) w).after
    (fun i => World.answer hasher (enrollments i).salt) schedule

variable {w : World} {enrollments : ι → Enrollment} {hash : ι → PasswordHash}

theorem enroll_reached (built : w.users.Built)
    (distinct : Function.Injective fun i => (enrollments i).fresh)
    (new : ∀ i, w.users.find? (enrollments i).fresh = none)
    (hashed : ∀ i, hasher.hash (enrollments i).salt (enrollments i).registration.password =
      .ok (hash i)) (schedule : List ι) :
    Enrolled w.users enrollments (enroll hasher w enrollments schedule).history
        (enroll hasher w enrollments schedule).state.users ∧
      ∀ i, EnrollPoint (enrollments i) (hash i)
        (Moment.own (enroll hasher w enrollments schedule).history i)
        ((enroll hasher w enrollments schedule).outcome? i) := by
  refine Moment.reached (J := fun h (w' : World) => Enrolled w.users enrollments h w'.users)
    (enrolled_start built) ?_ (fun i => makes_register _ _ _)
    (fun i => throughout_register (enrollments i) (hashed i)) schedule
  intro h w' i c enrolled made
  exact ⟨⟨w', rfl⟩, enrolled_answer enrolled built distinct new made⟩

/-- A registration that ended with the message that its username is taken. -/
def ToldTaken (o : Outcome (Except Problem User)) : Prop :=
  ∃ problem, o = .finished (.error problem) ∧ problem.code = .invalidRequest ∧
    problem.details = some (.obj [("fields", .obj [("username",
      .arr [.str "A user with that username already exists."])])])

theorem toldTaken_nameTaken (trace : Option TraceId) :
    ToldTaken (.finished (.error (nameTaken trace))) :=
  ⟨_, rfl, rfl, rfl⟩

theorem enrollEnd_cases {e : Enrollment} {hash : PasswordHash} {own : List Exchange}
    {result : Except Problem User} (ended : EnrollEnd e hash own result) :
    (result = .ok e.user ∧ ⟨.createUser e.user hash, .ok ()⟩ ∈ own) ∨
      ToldTaken (.finished result) ∧ ∃ x ∈ own, x.meets e.name = true := by
  cases ended with
  | known other =>
    exact Or.inr ⟨toldTaken_nameTaken _, _, List.mem_singleton_self _, by simp [Exchange.meets]⟩
  | overtaken reason =>
    refine Or.inr ⟨toldTaken_nameTaken _, ⟨.createUser e.user hash, .error reason⟩, by simp, ?_⟩
    simp [Exchange.meets, Enrollment.user]
  | created => exact Or.inl ⟨rfl, by simp⟩

/-- Who created a user is told so, with the user and the hash that the registration was for. -/
theorem enrollPoint_created {e : Enrollment} {hash other : PasswordHash} {user : User}
    {own : List Exchange} {outcome : Option (Outcome (Except Problem User))}
    (point : EnrollPoint e hash own outcome) (created : ⟨.createUser user other, .ok ()⟩ ∈ own) :
    outcome = some (.finished (.ok e.user)) ∧ user = e.user ∧ other = hash := by
  rcases point with ⟨result, ended, ways⟩ | ⟨_, waits⟩
  · cases ways with
    | known => simp at created
    | overtaken reason => simp at created
    | created =>
      have same : user = e.user ∧ other = hash := by simpa using created
      exact ⟨ended, same⟩
  · have absurd := waits _ created
    cases absurd

/-- Registering is free of races. However registrations take turns, the first of those for a new
username that creates its user is the one that succeeds, and the username has its credentials from
then on; all others that end are told that the username is taken. The credentials and the generation
of a user who was there before stay as they are. -/
theorem registration_race_free (hasher : Password.Hasher) (w : World)
    (enrollments : ι → Enrollment) (hash : ι → PasswordHash) (built : w.users.Built)
    (distinct : Function.Injective fun i => (enrollments i).fresh)
    (new : ∀ i, w.users.find? (enrollments i).fresh = none)
    (hashed : ∀ i, hasher.hash (enrollments i).salt (enrollments i).registration.password =
      .ok (hash i)) (schedule : List ι) (name : Username) :
    let m := enroll hasher w enrollments schedule
    (w.users.credentials? name = none →
      (∃ i, (enrollments i).name = name ∧ m.outcome? i ≠ none) →
      ∃ winner, (enrollments winner).name = name ∧
        m.outcome? winner = some (.finished (.ok (enrollments winner).user)) ∧
        m.state.users.credentials? name = some ⟨(enrollments winner).user, hash winner⟩ ∧
        ∀ i o, i ≠ winner → (enrollments i).name = name → m.outcome? i = some o →
          ToldTaken o) ∧
    (∀ stored, w.users.credentials? name = some stored →
      m.state.users.credentials? name = some stored ∧
      m.state.users.generation? stored.user.id = w.users.generation? stored.user.id) := by
  intro m
  obtain ⟨enrolled, points⟩ : Enrolled w.users enrollments m.history m.state.users ∧
      ∀ i, EnrollPoint (enrollments i) (hash i) (Moment.own m.history i) (m.outcome? i) :=
    enroll_reached built distinct new hashed schedule
  refine ⟨?_, enrolled.kept name⟩
  rintro free ⟨i, rfl, ended⟩
  -- Whoever ended found the username taken, be it by the own creation of the user.
  have taken : m.state.users.ids.get? (enrollments i).name ≠ none := by
    rcases points i with ⟨result, _, ways⟩ | ⟨waits, _⟩
    · rcases enrollEnd_cases ways with ⟨_, created⟩ | ⟨_, x, own, meets⟩
      · have found := (enrolled.created i _ _ (Moment.mem_own.mp created)).2
        rw [Ne, ← Users.built_indexed enrolled.built]
        intro absent
        exact Option.some_ne_none _ (found.symm.trans absent)
      · exact enrolled.met _ (Moment.mem_own.mp own) _ meets
    · exact (ended waits).elim
  rw [Users.built_indexed built] at free
  obtain ⟨winner, user, other, named, created⟩ :=
    (enrolled.origin _ taken).resolve_left (fun before => before free)
  obtain ⟨won, rfl, rfl⟩ := enrollPoint_created (points winner) (Moment.mem_own.mpr created)
  have stored := (enrolled.created winner _ _ created).2
  rw [named] at stored
  refine ⟨winner, named, won, stored, ?_⟩
  intro j o different same ended
  rcases points j with ⟨result, finished, ways⟩ | ⟨waits, _⟩
  · rcases enrollEnd_cases ways with ⟨_, too⟩ | ⟨told, _⟩
    · -- Two winners would have left different credentials under the one username.
      have second : m.state.users.credentials? (enrollments j).name = _ :=
        (enrolled.created j _ _ (Moment.mem_own.mp too)).2
      rw [same, stored] at second
      have equal := congrArg (fun found => found.user.id) (Option.some.inj second)
      exact (different (distinct equal.symm)).elim
    · rw [ended] at finished
      rwa [Option.some.inj finished]
  · rw [ended] at waits
    cases waits

end Race

open Http (ada plainHasher)

def bob : User :=
  ⟨⟨⟨3⟩⟩, Http.bob⟩

def rivals : Bool → Enrollment
  | true => ⟨none, ⟨⟨1⟩⟩, [], ⟨ada, "one"⟩⟩
  | false => ⟨none, ⟨⟨2⟩⟩, [], ⟨ada, "two"⟩⟩

def bobOnly : World :=
  { World.initial with users := (Users.empty.create bob ⟨"three"⟩).2 }

/-- Both have found the username free before either of them creates its user. -/
def headToHead : List Bool :=
  [true, false, true, false, false, true]

theorem registration_race_free_rivals :
    (∃ winner, (rivals winner).name = ada ∧
      (enroll plainHasher bobOnly rivals headToHead).outcome? winner =
        some (.finished (.ok (rivals winner).user)) ∧
      (enroll plainHasher bobOnly rivals headToHead).state.users.credentials? ada =
        some ⟨(rivals winner).user, ⟨(rivals winner).registration.password⟩⟩ ∧
      ∀ i o, i ≠ winner → (rivals i).name = ada →
        (enroll plainHasher bobOnly rivals headToHead).outcome? i = some o → ToldTaken o) ∧
    (enroll plainHasher bobOnly rivals headToHead).state.users.credentials? bob.username =
      some ⟨bob, ⟨"three"⟩⟩ := by
  have distinct : ∀ i j, (rivals i).fresh = (rivals j).fresh → i = j := by decide
  have race := registration_race_free plainHasher bobOnly rivals
    (fun i => ⟨(rivals i).registration.password⟩) (.created bob _ .empty) distinct
    (by decide +kernel) (fun i => by cases i <;> rfl) headToHead
  have ended : (enroll plainHasher bobOnly rivals headToHead).outcome? true ≠ none :=
    Option.isSome_iff_ne_none.mp (by decide +kernel)
  exact ⟨(race ada).1 (by decide +kernel) ⟨true, rfl, ended⟩,
    ((race bob.username).2 ⟨bob, ⟨"three"⟩⟩ (by decide +kernel)).1⟩

end Folio.Account
