import Folio.Proofs.Http.Entry
import Folio.Proofs.Http.Reach

/-!
# Registered credentials

Credentials that are stored were stored by a registration earlier in the run, and stay as they were
stored. Hence a login is admitted exactly with the credentials of an earlier registration.
-/

namespace Folio

/-- Under a salt, every password gets a hash under which it is recognized. -/
def Password.Hasher.Recognizes (hasher : Password.Hasher) (salt : List UInt8) : Prop :=
  ∀ password, ∃ hash, hasher.hash salt password = .ok hash ∧ hasher.verify password hash = .ok true

/-- A store has one user more than before, and otherwise the same ones. -/
def Users.Gains (before after : Users) (user : User) : Prop :=
  before.find? user.id = none ∧
    ∀ id, after.find? id = if user.id = id then some user else before.find? id

end Folio

namespace Folio.Http

open Program

variable {hasher : Password.Hasher} {w : World} {visits : List Visit} {visit : Visit}
  {dispatcher : Dispatcher} {i j : Nat}

/-- The visit at a position is a registration that stores credentials which were not there. -/
def StoresAt (hasher : Password.Hasher) (w : World) (visits : List Visit) (i : Nat)
    (stored : StoredCredentials) : Prop :=
  ∃ visit, visits[i]? = some visit ∧ visit.route? = some .register ∧
    (worldBefore hasher w visits i).users.credentials? stored.user.username = none ∧
    (worldBefore hasher w visits (i + 1)).users.credentials? stored.user.username = some stored

theorem storesAt_found {stored : StoredCredentials} (stores : StoresAt hasher w visits i stored) :
    (worldBefore hasher w visits (i + 1)).users.credentials? stored.user.username = some stored := by
  obtain ⟨_, _, _, _, after⟩ := stores
  exact after

/-- A username and a password are those of a user whom a registration before a position stored. -/
def RegisteredBefore (hasher : Password.Hasher) (w : World) (visits : List Visit) (j : Nat)
    (username password : String) (id : UserId) : Prop :=
  ∃ i stored, i < j ∧ StoresAt hasher w visits i stored ∧ stored.user.username.text = username ∧
    stored.user.id = id ∧ hasher.verify password stored.hash = .ok true

/-- The answer to a visit sets a session, and that session authenticates a user. -/
def OpensFor (hasher : Password.Hasher) (visit : Visit) (w : World) (id : UserId) : Prop :=
  ∃ content, issued hasher visit w = some content ∧ ∀ salt trace,
    sessionUser hasher salt trace (some content) (serve hasher visit w).state =
      .finished (.ok (some id))

/-! ### Credentials over a run -/

/-- A visit leaves the credentials under a username, or stores the first ones there. -/
theorem step_credentials {known : UserId → Prop} {events : List FollowEvent} {after : World}
    (sound : Users.Sound known w.users) (new : ¬known visit.context.freshId)
    (step : Step hasher visit w events after) (name : Username) :
    after.users.credentials? name = w.users.credentials? name ∨
      visit.route? = some .register ∧ w.users.credentials? name = none ∧
        ∃ stored, after.users.credentials? name = some stored ∧ stored.user.username = name := by
  cases step with
  | still => exact Or.inl rfl
  | loggedOut => exact Or.inl (Users.credentials_advance _ name)
  | @registered form registration hash route sent accepted free hashed =>
    have added := Users.credentials_added sound ⟨visit.context.freshId, registration.username⟩
      hash new name
    by_cases same : registration.username = name
    · rw [if_pos same] at added
      rw [same] at free
      exact Or.inr ⟨route, (Users.credentials_none sound name).mpr free, _, added, same⟩
    · rw [if_neg same] at added
      exact Or.inl added
  | followed => exact Or.inl rfl
  | unfollowed => exact Or.inl rfl

theorem credentials_succ (hasher : Password.Hasher) (dispatcher : Dispatcher)
    (fresh : (freshIds visits).Nodup) (j : Nat) (name : Username) :
    (worldBefore hasher (emptyWorld dispatcher) visits (j + 1)).users.credentials? name =
        (worldBefore hasher (emptyWorld dispatcher) visits j).users.credentials? name ∨
      ∃ stored, stored.user.username = name ∧
        StoresAt hasher (emptyWorld dispatcher) visits j stored := by
  cases here : visits[j]? with
  | none => exact Or.inl (by rw [worldBefore_past here])
  | some visit =>
    have sound := sound_before hasher dispatcher fresh j
    obtain ⟨_, _, step⟩ :=
      serve_cases hasher visit (worldBefore hasher (emptyWorld dispatcher) visits j)
    rw [← worldBefore_succ here] at step
    rcases step_credentials sound (fresh_at fresh here) step name with
      kept | ⟨route, free, stored, found, rfl⟩
    · exact Or.inl kept
    · exact Or.inr ⟨stored, rfl, visit, here, route, free, found⟩

theorem credentials_kept (fresh : (freshIds visits).Nodup) {name : Username}
    {stored : StoredCredentials}
    (found : (worldBefore hasher (emptyWorld dispatcher) visits i).users.credentials? name =
      some stored) (later : i ≤ j) :
    (worldBefore hasher (emptyWorld dispatcher) visits j).users.credentials? name =
      some stored := by
  induction j, later using Nat.le_induction with
  | base => exact found
  | succ j later ih =>
    rcases credentials_succ hasher dispatcher fresh j name with
      kept | ⟨other, rfl, _, _, _, free, _⟩
    · exact kept.trans ih
    · rw [free] at ih
      cases ih

/-- The credentials under a username are those that a registration stored for it. -/
theorem credentials_iff_stored (fresh : (freshIds visits).Nodup) {name : Username}
    {stored : StoredCredentials} :
    (worldBefore hasher (emptyWorld dispatcher) visits j).users.credentials? name = some stored ↔
      stored.user.username = name ∧
        ∃ i, i < j ∧ StoresAt hasher (emptyWorld dispatcher) visits i stored := by
  constructor
  · intro found
    -- The visit before either left the credentials alone or is the registration looked for.
    induction j with
    | zero => cases found
    | succ j ih =>
      rcases credentials_succ hasher dispatcher fresh j name with
        kept | ⟨first, named, stores⟩
      · obtain ⟨named, i, earlier, stores⟩ := ih (kept.symm.trans found)
        exact ⟨named, i, by omega, stores⟩
      · have after := storesAt_found stores
        rw [named, found] at after
        cases after
        exact ⟨named, j, by omega, stores⟩
  · rintro ⟨rfl, i, earlier, stores⟩
    exact credentials_kept fresh (storesAt_found stores) earlier

/-! ### Ways in -/

theorem register_free {known : UserId → Prop} {form : List (String × String)}
    {registration : Registration} (sound : Users.Sound known w.users)
    (new : ¬known visit.context.freshId) (law : hasher.Recognizes visit.salt)
    (route : visit.route? = some .register)
    (sent : visit.request.form registrationFields = .ok form)
    (accepted : Registration.ofFields (field form "username") (field form "password1")
      (field form "password2") = .ok registration)
    (absent : w.users.findUsername? registration.username = none) :
    ∃ hash, hasher.verify registration.password hash = .ok true ∧
      (serve hasher visit w).state.users =
        w.users.added ⟨visit.context.freshId, registration.username⟩ hash ∧
      OpensFor hasher visit w visit.context.freshId := by
  obtain ⟨hash, hashed, recognized⟩ := law registration.password
  refine ⟨hash, recognized, ?_⟩
  have free := (Users.credentials_none sound _).mp (Users.findUsername_none.mp absent)
  generalize added : w.users.added ⟨visit.context.freshId, registration.username⟩ hash = users
  have stored := Users.credentials_added sound ⟨visit.context.freshId, registration.username⟩ hash
    new registration.username
  rw [added, if_pos rfl] at stored
  have current : users.generation? visit.context.freshId = some .initial := by
    rw [← added, Users.generation_added, if_pos rfl]
  have named : Username.parse registration.credentials.username = .ok registration.username :=
    Username.parse_text _
  have effect := serve_register hasher w route sent accepted
  rw [Account.registered_free hasher visit.salt absent free hashed, added] at effect
  dsimp only at effect
  rw [admitted_of_verified named stored recognized current] at effect
  have state : (serve hasher visit w).state = { w with users } := (Run.effect_eq effect).2.2
  have opened := issued_of_effect effect
  rw [answered_entered_session] at opened
  refine ⟨by rw [state], _, opened, ?_⟩
  intro salt trace
  rw [sessionUser_entered, state]
  dsimp only
  rw [current, if_pos rfl]

theorem login_cases {known : UserId → Prop} {next : String} {form : List (String × String)}
    (sound : Users.Sound known w.users) (route : visit.route? = some .login)
    (asked : visit.request.next = .ok next) (sent : visit.request.form loginFields = .ok form)
    (named : Text.trim (field form "username") ≠ "") (given : field form "password" ≠ "") :
    ((∃ response, (serve hasher visit w).outcome = .finished response ∧ response.cookie = none) ∧
      ¬∃ name stored, w.users.credentials? name = some stored ∧
        name.text = Text.trim (field form "username") ∧
        hasher.verify (field form "password") stored.hash = .ok true) ∨
      ∃ name stored, w.users.credentials? name = some stored ∧
        name.text = Text.trim (field form "username") ∧
        hasher.verify (field form "password") stored.hash = .ok true ∧
        OpensFor hasher visit w stored.user.id := by
  have effect := serve_login hasher w route asked sent named given
  generalize written : LoginCredentials.mk (Text.trim (field form "username"))
    (field form "password") = credentials at effect
  have username : credentials.username = Text.trim (field form "username") := by rw [← written]
  have password : credentials.password = field form "password" := by rw [← written]
  rw [← username, ← password]
  rcases admitted_cases hasher w.users visit.trace credentials (nextOrHome next)
    (.start visit.request.session) with
    ⟨problem, refused⟩ | ⟨name, stored, generation, read, found, verified, current, opened⟩
  · rw [refused] at effect
    refine Or.inl ⟨⟨_, (Run.effect_eq effect).1, answered_start_cookie _⟩, ?_⟩
    rintro ⟨name, stored, found, text, verified⟩
    have read : Username.parse credentials.username = .ok name := by
      rw [← text]
      exact Username.parse_text name
    obtain ⟨generation, current⟩ :=
      Users.generation_of_record sound (Users.credentials_some sound found).2
    rw [admitted_of_verified read found verified current] at refused
    cases refused
  · have text : name.text = credentials.username := by
      rw [Username.text_of_parse read, username, Text.trim_idem]
    rw [opened] at effect
    have state : (serve hasher visit w).state = w := (Run.effect_eq effect).2.2
    have issue := issued_of_effect effect
    rw [answered_entered_session] at issue
    refine Or.inr ⟨name, stored, found, text, verified, _, issue, ?_⟩
    intro salt trace
    rw [sessionUser_entered, state, current, if_pos rfl]

theorem login_repeated_next {fault : FormFault} (route : visit.route? = some .login)
    (repeated : visit.request.next = .error fault) :
    ∃ response, (serve hasher visit w).outcome = .finished response ∧ response.cookie = none := by
  have effect := serve_effect hasher w route
  unfold App.handle at effect
  rw [repeated] at effect
  dsimp only at effect
  rw [Handler.effect_pure, Effect.quiet_andThen] at effect
  exact ⟨_, (Run.effect_eq effect).1, answered_start_cookie _⟩

/-! ### Ways in over a run -/

theorem registeredBefore_iff (fresh : (freshIds visits).Nodup) {username password : String}
    {id : UserId} :
    RegisteredBefore hasher (emptyWorld dispatcher) visits j username password id ↔
      ∃ name stored,
        (worldBefore hasher (emptyWorld dispatcher) visits j).users.credentials? name =
          some stored ∧
        name.text = username ∧ hasher.verify password stored.hash = .ok true ∧
        stored.user.id = id := by
  constructor
  · rintro ⟨i, stored, earlier, stores, text, own, verified⟩
    exact ⟨stored.user.username, stored,
      (credentials_iff_stored fresh).mpr ⟨rfl, i, earlier, stores⟩, text, verified, own⟩
  · rintro ⟨name, stored, found, text, verified, own⟩
    obtain ⟨rfl, i, earlier, stores⟩ := (credentials_iff_stored fresh).mp found
    exact ⟨i, stored, earlier, stores, text, own, verified⟩

theorem not_opensFor {response : Response} (id : UserId)
    (ended : (serve hasher visit w).outcome = .finished response) (none : response.cookie = none) :
    ¬OpensFor hasher visit w id := by
  rintro ⟨content, opened, _⟩
  unfold issued at opened
  rw [ended] at opened
  dsimp only at opened
  unfold Response.session? at opened
  rw [none] at opened
  cases opened

theorem opensFor_unique {a b : UserId} (first : OpensFor hasher visit w a)
    (second : OpensFor hasher visit w b) : a = b := by
  obtain ⟨content, opened, valid⟩ := first
  obtain ⟨other, again, same⟩ := second
  rw [opened] at again
  cases again
  have equal := (valid [] none).symm.trans (same [] none)
  cases equal
  rfl

theorem registeredBefore_unique (fresh : (freshIds visits).Nodup) {username password : String}
    {a b : UserId}
    (first : RegisteredBefore hasher (emptyWorld dispatcher) visits j username password a)
    (second : RegisteredBefore hasher (emptyWorld dispatcher) visits j username password b) :
    a = b := by
  obtain ⟨name, stored, found, text, _, rfl⟩ := (registeredBefore_iff fresh).mp first
  obtain ⟨other, again, same, named, _, rfl⟩ := (registeredBefore_iff fresh).mp second
  rw [Username.ext_text (named.trans text.symm), found] at same
  cases same
  rfl

/-- At any point of a run, a login opens a session for exactly the user who registered with its
credentials. -/
theorem login_opens_iff (hasher : Password.Hasher) (dispatcher : Dispatcher) (j : Nat)
    (fresh : (freshIds visits).Nodup) {form : List (String × String)}
    (route : visit.route? = some .login)
    (sent : visit.request.form loginFields = .ok form)
    (named : Text.trim (field form "username") ≠ "") (given : field form "password" ≠ "")
    (id : UserId) :
    OpensFor hasher visit (worldBefore hasher (emptyWorld dispatcher) visits j) id ↔
      (∃ next, visit.request.next = .ok next) ∧
        RegisteredBefore hasher (emptyWorld dispatcher) visits j
          (Text.trim (field form "username")) (field form "password") id := by
  cases asked : visit.request.next with
  | error fault =>
    obtain ⟨response, ended, none⟩ := login_repeated_next route asked
    constructor
    · intro opens
      exact (not_opensFor id ended none opens).elim
    · rintro ⟨⟨next, read⟩, _⟩
      cases read
  | ok next =>
    have sound := sound_before hasher dispatcher fresh j
    rcases login_cases sound route asked sent named given with
      ⟨⟨response, ended, none⟩, unknown⟩ | ⟨name, stored, found, text, verified, opens⟩
    · constructor
      · intro opens
        exact (not_opensFor id ended none opens).elim
      · rintro ⟨_, registered⟩
        obtain ⟨name, stored, found, text, verified, _⟩ := (registeredBefore_iff fresh).mp registered
        exact (unknown ⟨name, stored, found, text, verified⟩).elim
    · -- Both sides hold of one user at most, and of the same one.
      have registered := (registeredBefore_iff fresh).mpr ⟨name, stored, found, text, verified, rfl⟩
      constructor
      · intro again
        rw [← opensFor_unique opens again]
        exact ⟨⟨next, rfl⟩, registered⟩
      · rintro ⟨_, again⟩
        rw [← registeredBefore_unique fresh registered again]
        exact opens

theorem login_refused (fresh : (freshIds visits).Nodup) {form : List (String × String)}
    (route : visit.route? = some .login)
    (sent : visit.request.form loginFields = .ok form)
    (named : Text.trim (field form "username") ≠ "") (given : field form "password" ≠ "")
    (closed : ¬∃ id,
      OpensFor hasher visit (worldBefore hasher (emptyWorld dispatcher) visits j) id) :
    ∃ response,
      (serve hasher visit (worldBefore hasher (emptyWorld dispatcher) visits j)).outcome =
        .finished response ∧
      response.cookie = none := by
  cases asked : visit.request.next with
  | error fault => exact login_repeated_next route asked
  | ok next =>
    have sound := sound_before hasher dispatcher fresh j
    rcases login_cases sound route asked sent named given with
      ⟨refused, _⟩ | ⟨name, stored, found, text, verified, opens⟩
    · exact refused
    · exact (closed ⟨_, opens⟩).elim

/-- Whoever registers under a free username becomes the one new user, and can log in. -/
theorem register_opens (fresh : (freshIds visits).Nodup) {form : List (String × String)}
    {registration : Registration} (here : visits[i]? = some visit)
    (law : hasher.Recognizes visit.salt) (route : visit.route? = some .register)
    (sent : visit.request.form registrationFields = .ok form)
    (accepted : Registration.ofFields (field form "username") (field form "password1")
      (field form "password2") = .ok registration)
    (absent : (worldBefore hasher (emptyWorld dispatcher) visits i).users.findUsername?
      registration.username = none) :
    Users.Gains (worldBefore hasher (emptyWorld dispatcher) visits i).users
        (worldBefore hasher (emptyWorld dispatcher) visits (i + 1)).users
        ⟨visit.context.freshId, registration.username⟩ ∧
      (∃ hash, StoresAt hasher (emptyWorld dispatcher) visits i
          ⟨⟨visit.context.freshId, registration.username⟩, hash⟩ ∧
        hasher.verify registration.password hash = .ok true) ∧
      OpensFor hasher visit (worldBefore hasher (emptyWorld dispatcher) visits i)
        visit.context.freshId := by
  have sound := sound_before hasher dispatcher fresh i
  have new := fresh_at fresh here
  obtain ⟨hash, recognized, users, opens⟩ :=
    register_free sound new law route sent accepted absent
  rw [← worldBefore_succ here] at users
  refine ⟨⟨Users.find_new sound new, ?_⟩, ⟨hash, ⟨visit, here, route, Users.findUsername_none.mp absent, ?_⟩,
    recognized⟩, opens⟩
  · intro id
    rw [users, Users.find_added]
  · rw [users, Users.credentials_added sound _ _ new, if_pos rfl]

/-- Whoever registers is stored for good: from then on a login opens a session with exactly the
registered credentials, unless it names its target twice, and sets no cookie with any other. -/
theorem login_accepts_registered (hasher : Password.Hasher) (dispatcher : Dispatcher)
    (visits : List Visit) (fresh : (freshIds visits).Nodup)
    (law : ∀ visit ∈ visits, hasher.Recognizes visit.salt) :
    (∀ (i : Nat) (visit : Visit) (form : List (String × String)) (registration : Registration),
      visits[i]? = some visit → visit.route? = some .register →
      visit.request.form registrationFields = .ok form →
      Registration.ofFields (field form "username") (field form "password1")
        (field form "password2") = .ok registration →
      (worldBefore hasher (emptyWorld dispatcher) visits i).users.findUsername?
        registration.username = none →
      Users.Gains (worldBefore hasher (emptyWorld dispatcher) visits i).users
          (worldBefore hasher (emptyWorld dispatcher) visits (i + 1)).users
          ⟨visit.context.freshId, registration.username⟩ ∧
        (∃ hash, StoresAt hasher (emptyWorld dispatcher) visits i
            ⟨⟨visit.context.freshId, registration.username⟩, hash⟩ ∧
          hasher.verify registration.password hash = .ok true) ∧
        OpensFor hasher visit (worldBefore hasher (emptyWorld dispatcher) visits i)
          visit.context.freshId) ∧
    (∀ (j : Nat) (visit : Visit) (form : List (String × String)),
      visits[j]? = some visit → visit.route? = some .login →
      visit.request.form loginFields = .ok form →
      Text.trim (field form "username") ≠ "" → field form "password" ≠ "" →
      (∀ id, OpensFor hasher visit (worldBefore hasher (emptyWorld dispatcher) visits j) id ↔
        (∃ next, visit.request.next = .ok next) ∧
          RegisteredBefore hasher (emptyWorld dispatcher) visits j
            (Text.trim (field form "username")) (field form "password") id) ∧
      ((¬∃ id, (∃ next, visit.request.next = .ok next) ∧
          RegisteredBefore hasher (emptyWorld dispatcher) visits j
            (Text.trim (field form "username")) (field form "password") id) →
        ∃ response,
          (serve hasher visit (worldBefore hasher (emptyWorld dispatcher) visits j)).outcome =
            .finished response ∧
          response.cookie = none)) := by
  constructor
  · intro i visit form registration here route sent accepted absent
    exact register_opens fresh here (law visit (List.mem_of_getElem? here)) route sent accepted
      absent
  · intro j visit form _ route sent named given
    have opens := login_opens_iff hasher dispatcher j fresh route sent named given
    refine ⟨opens, ?_⟩
    intro unknown
    refine login_refused fresh route sent named given ?_
    rintro ⟨id, opened⟩
    exact unknown ⟨id, (opens id).mp opened⟩

theorem plainHasher_recognizes (salt : List UInt8) : plainHasher.Recognizes salt := by
  intro password
  exact ⟨⟨password⟩, rfl, by simp [plainHasher]⟩

theorem registerAda_stores (rest : List Visit) :
    StoresAt plainHasher (emptyWorld .initial) (registerAda :: rest) 0
      ⟨⟨⟨⟨1⟩⟩, ada⟩, ⟨"pw"⟩⟩ := by
  have found : (worldAfter plainHasher (emptyWorld .initial) [registerAda]).users.credentials? ada =
      some ⟨⟨⟨⟨1⟩⟩, ada⟩, ⟨"pw"⟩⟩ := by decide +kernel
  exact ⟨registerAda, rfl, by decide +kernel, rfl, found⟩

def loginAda : Visit :=
  .numbered 2 "POST" "/accounts/login?next=/profiles/ada" "username=+ada+&password=pw" none

theorem login_accepts_registered_ada :
    OpensFor plainHasher loginAda
      (worldBefore plainHasher (emptyWorld .initial) [registerAda, loginAda] 1) ⟨⟨1⟩⟩ := by
  have accepts := (login_accepts_registered plainHasher .initial [registerAda, loginAda]
    (by decide +kernel) (fun visit _ => plainHasher_recognizes visit.salt)).2
  refine ((accepts 1 loginAda [("username", " ada "), ("password", "pw")] rfl ?_ ?_ ?_ ?_).1
    ⟨⟨1⟩⟩).mpr ⟨⟨"/profiles/ada", ?_⟩, 0, _, by decide, registerAda_stores _, ?_, rfl, rfl⟩
  · decide +kernel
  · decide +kernel
  · decide +kernel
  · decide +kernel
  · decide +kernel
  · decide +kernel

/-- A login that names its target twice. -/
def loginTwice : Visit :=
  .numbered 2 "POST" "/accounts/login?next=/a&next=/b" "username=ada&password=pw" none

theorem repeated_next_refused :
    (freshIds [registerAda, loginTwice]).Nodup ∧
      (∀ visit ∈ [registerAda, loginTwice], plainHasher.Recognizes visit.salt) ∧
      loginTwice.route? = some .login ∧
      loginTwice.request.form loginFields = .ok [("username", "ada"), ("password", "pw")] ∧
      RegisteredBefore plainHasher (emptyWorld .initial) [registerAda, loginTwice] 1
        (Text.trim "ada") "pw" ⟨⟨1⟩⟩ ∧
      ¬OpensFor plainHasher loginTwice
        (worldBefore plainHasher (emptyWorld .initial) [registerAda, loginTwice] 1) ⟨⟨1⟩⟩ := by
  refine ⟨by decide +kernel, fun visit _ => plainHasher_recognizes visit.salt, ?_, ?_, ?_, ?_⟩
  · decide +kernel
  · decide +kernel
  · exact ⟨0, _, by decide, registerAda_stores _, by decide +kernel, rfl, rfl⟩
  · rintro ⟨content, opened, _⟩
    have closed : (issued plainHasher loginTwice
        (worldBefore plainHasher (emptyWorld .initial) [registerAda, loginTwice] 1)).isNone =
          true := by
      decide +kernel
    rw [opened] at closed
    cases closed

end Folio.Http
