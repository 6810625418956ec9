import Folio.Proofs.Http.Login
import Folio.Proofs.Registration

/-!
# Refused registrations

A registration that breaks a rule is refused, and told which fields do. What can be seen from the
form alone is told all at once; that somebody has the username is found out, and told, only when the
form has passed.
-/

namespace Folio

/-- Somebody has the username that a form gives. Blanks around it do not count. -/
def Users.Taken (users : Users) (username : String) : Prop :=
  ∃ name user, users.findUsername? name = some user ∧ name.text = Text.trim username

namespace Http

open Program

variable {hasher : Password.Hasher} {visit : Visit} {w : World} {form : List (String × String)}
  {registration : Registration}

/-- The fields that a response finds fault with. -/
def Response.fields? (response : Response) : Option (List String) :=
  match response.body with
  | .json value =>
    match value.follow? ["details", "fields"] with
    | some (.obj members) => some (members.map (·.1))
    | _ => none
  | _ => none

/-- A response tells the errors of a form. -/
structure Response.Tells (response : Response) (errors : FormErrors) : Prop where
  status : response.status = 400
  fields : response.fields? = some errors.names

theorem tells_problem {problem : Problem} {errors : FormErrors}
    (invalid : problem.code = .invalidRequest) (details : problem.details = some errors.details)
    (traced : problem.traceId = visit.trace.map TraceId.render) (session : Session) :
    (answered visit.context (.error problem, session)).Tells errors := by
  have shown : redact problem = problem := by
    unfold redact
    rw [if_neg (by rw [invalid]; decide)]
  constructor
  · rw [answered_problem_status session traced, invalid]
    rfl
  · have body : (answered visit.context (.error problem, session)).body =
        .json problem.toJson := by
      unfold answered App.finish
      dsimp only
      rw [ofProblem_traced traced, shown]
    have members : problem.toJson.follow? ["details", "fields"] = some errors.toJson := by
      unfold Problem.toJson
      rw [details]
      rfl
    unfold Response.fields?
    rw [body]
    dsimp only
    rw [members]
    unfold FormErrors.toJson FormErrors.names
    simp

/-! ### Three ways to end -/

theorem register_refused (hasher : Password.Hasher) (w : World) {errors : FormErrors}
    (route : visit.route? = some .register)
    (sent : visit.request.form registrationFields = .ok form)
    (refused : Registration.ofFields (field form "username") (field form "password1")
      (field form "password2") = .error errors) :
    ∃ response, (serve hasher visit w).outcome = .finished response ∧ response.Tells errors := by
  have effect : (serve hasher visit w).effect =
      .quiet (answered visit.context (.error (Handler.invalidForm visit.trace errors
        Account.invalidRegistration (by decide)), .start visit.request.session)) w := by
    rw [serve_effect hasher w route]
    unfold App.handle
    rw [sent]
    have handled := Handler.effect_register hasher visit.salt visit.trace visit.context.freshId
      form (.start visit.request.session) w
    rw [refused] at handled
    exact congrArg (Effect.andThen · _) handled
  exact ⟨_, (Run.effect_eq effect).1, tells_problem rfl rfl rfl _⟩

theorem register_taken (hasher : Password.Hasher) {user : User}
    (route : visit.route? = some .register)
    (sent : visit.request.form registrationFields = .ok form)
    (accepted : Registration.ofFields (field form "username") (field form "password1")
      (field form "password2") = .ok registration)
    (taken : w.users.findUsername? registration.username = some user) :
    ∃ response, (serve hasher visit w).outcome = .finished response ∧
      response.Tells (FormErrors.empty.add "username" usernameTaken) := by
  have effect := serve_register hasher w route sent accepted
  rw [Account.registered_taken hasher visit.salt taken] at effect
  exact ⟨_, (Run.effect_eq effect).1, tells_problem rfl rfl rfl _⟩

theorem problem_not_invalid {problem : Problem} (valid : problem.code ≠ .invalidRequest) :
    answerStatus (.error problem) ≠ 400 := by
  rcases answerStatus_problem problem with status | status
  · rw [status]
    cases code : problem.code with
    | invalidRequest => exact (valid code).elim
    | _ => decide
  · rw [status]
    decide

theorem admitted_not_invalid (context : Context) (users : Users) (trace : Option TraceId)
    (credentials : LoginCredentials) (session : Session) :
    (answered context
      (Handler.admitted hasher users trace credentials homePath session)).status ≠ 400 := by
  unfold Handler.admitted
  split
  · rename_i failed
    rw [answered_status]
    rcases Account.authenticated_error hasher failed with rfl | ⟨e, rfl⟩
    · exact problem_not_invalid nofun
    · exact problem_not_invalid nofun
  · split
    · rw [answered_status]
      exact nofun
    · rw [answered_status]
      exact problem_not_invalid nofun

/-- Under a username that is free, a registration ends with a session or fails for other reasons. -/
theorem register_free_status (built : w.users.Built) (route : visit.route? = some .register)
    (sent : visit.request.form registrationFields = .ok form)
    (accepted : Registration.ofFields (field form "username") (field form "password1")
      (field form "password2") = .ok registration)
    (absent : w.users.findUsername? registration.username = none) :
    ∃ response, (serve hasher visit w).outcome = .finished response ∧ response.status ≠ 400 := by
  have free := (Users.built_indexed built).mp (Users.findUsername_none.mp absent)
  have effect := serve_register hasher w route sent accepted
  cases hashed : hasher.hash visit.salt registration.password with
  | error e =>
    rw [Account.registered_unhashed hasher visit.salt absent hashed] at effect
    refine ⟨_, (Run.effect_eq effect).1, ?_⟩
    rw [answered_status]
    exact problem_not_invalid nofun
  | ok hash =>
    rw [Account.registered_free hasher visit.salt absent free hashed] at effect
    exact ⟨_, (Run.effect_eq effect).1, admitted_not_invalid _ _ _ _ _⟩

/-! ### The fields that are told -/

/-- A field of the form breaks a rule that the form alone decides. -/
def Broken (form : List (String × String)) (name : String) : Prop :=
  Registration.Breaks (field form "username") (field form "password1") (field form "password2") name

/-- A field is at fault: it is broken, or it is the username and somebody has that. -/
def Faulty (users : Users) (form : List (String × String)) (name : String) : Prop :=
  Broken form name ∨ name = "username" ∧ users.Taken (field form "username")

/-- How a form is answered: with a refusal if some field is at fault. The refusal tells all the
fields at fault, unless the form has broken ones: then it tells these alone. -/
structure Verdict (users : Users) (form : List (String × String)) (response : Response) : Prop where
  refused : response.status = 400 ↔ ∃ name, Faulty users form name
  told : response.status = 400 → ∃ fields, response.fields? = some fields ∧
    ((users.Taken (field form "username") → ∀ other, ¬Broken form other) →
      ∀ name, name ∈ fields ↔ Faulty users form name) ∧
    ((∃ other, Broken form other) → ∀ name, name ∈ fields ↔ Broken form name)

theorem taken_iff {users : Users}
    (accepted : Registration.ofFields (field form "username") (field form "password1")
      (field form "password2") = .ok registration) :
    users.Taken (field form "username") ↔
      ∃ user, users.findUsername? registration.username = some user := by
  have text := Username.text_of_parse (Registration.ofFields_eq_ok_iff.mp accepted).1
  constructor
  · rintro ⟨name, user, found, same⟩
    rw [Username.ext_text (same.trans text.symm)] at found
    exact ⟨user, found⟩
  · rintro ⟨user, found⟩
    exact ⟨registration.username, user, found, text⟩

theorem verdict_broken {users : Users} {response : Response} {errors : FormErrors}
    (refused : Registration.ofFields (field form "username") (field form "password1")
      (field form "password2") = .error errors)
    (tells : response.Tells errors) : Verdict users form response := by
  obtain ⟨broken, breaks⟩ := Registration.breaks_of_refused refused
  refine ⟨⟨fun _ => ⟨broken, Or.inl breaks⟩, fun _ => tells.status⟩, ?_⟩
  intro _
  refine ⟨_, tells.fields, ?_, ?_⟩
  · intro alone name
    have free : ¬users.Taken (field form "username") := fun taken => alone taken broken breaks
    rw [Registration.mem_errors_iff refused]
    unfold Faulty
    simp [free, Broken]
  · intro _ name
    exact Registration.mem_errors_iff refused

theorem verdict_taken {users : Users} {response : Response}
    (accepted : Registration.ofFields (field form "username") (field form "password1")
      (field form "password2") = .ok registration)
    (taken : users.Taken (field form "username"))
    (tells : response.Tells (FormErrors.empty.add "username" usernameTaken)) :
    Verdict users form response := by
  have sound : ∀ name, ¬Broken form name := Registration.not_breaks_of_accepted accepted
  refine ⟨⟨fun _ => ⟨"username", Or.inr ⟨rfl, taken⟩⟩, fun _ => tells.status⟩, ?_⟩
  intro _
  refine ⟨_, tells.fields, ?_, ?_⟩
  · intro _ name
    rw [FormErrors.mem_names_add]
    unfold Faulty
    simp [sound name, taken, FormErrors.not_mem_names_empty]
  · rintro ⟨other, broken⟩
    exact (sound other broken).elim

theorem verdict_free {users : Users} {response : Response}
    (accepted : Registration.ofFields (field form "username") (field form "password1")
      (field form "password2") = .ok registration)
    (free : ¬users.Taken (field form "username")) (answered : response.status ≠ 400) :
    Verdict users form response := by
  have sound : ∀ name, ¬Broken form name := Registration.not_breaks_of_accepted accepted
  refine ⟨⟨fun refused => (answered refused).elim, ?_⟩, fun refused => (answered refused).elim⟩
  rintro ⟨name, broken | ⟨_, taken⟩⟩
  · exact (sound name broken).elim
  · exact (free taken).elim

/-- A registration is refused as invalid exactly when one of its fields is at fault. The refusal
tells every field at fault and no other, but for a username that is taken in a form that is broken
besides: the refusal then tells the broken fields alone. -/
theorem registration_faults_told (hasher : Password.Hasher) (dispatcher : Dispatcher)
    (visits : List Visit) {w : World}
    (reached : worldAfter hasher (emptyWorld dispatcher) visits = w) (visit : Visit)
    (route : visit.route? = some .register) {form : List (String × String)}
    (sent : visit.request.form registrationFields = .ok form) :
    ∃ response, (serve hasher visit w).outcome = .finished response ∧
      Verdict w.users form response := by
  have built : w.users.Built := by
    rw [← reached]
    exact run_built hasher dispatcher visits
  cases read : Registration.ofFields (field form "username") (field form "password1")
      (field form "password2") with
  | error errors =>
    obtain ⟨response, ended, tells⟩ := register_refused hasher w route sent read
    exact ⟨response, ended, verdict_broken read tells⟩
  | ok registration =>
    cases found : w.users.findUsername? registration.username with
    | some user =>
      obtain ⟨response, ended, tells⟩ := register_taken hasher route sent read found
      exact ⟨response, ended, verdict_taken read ((taken_iff read).mpr ⟨user, found⟩) tells⟩
    | none =>
      obtain ⟨response, ended, answered⟩ := register_free_status built route sent read found
      have free : ¬w.users.Taken (field form "username") := by
        rw [taken_iff read, found]
        exact nofun
      exact ⟨response, ended, verdict_free read free answered⟩

theorem ada_taken :
    (worldAfter plainHasher (emptyWorld .initial) [registerAda]).users.Taken "ada" :=
  ⟨ada, ⟨⟨⟨1⟩⟩, ada⟩, by decide +kernel, by decide +kernel⟩

/-- A registration under the name of ada, with nothing else amiss. -/
def registerTaken : Visit :=
  .numbered 2 "POST" "/accounts/register" "username=+ada+&password1=x&password2=x" none

theorem registration_faults_told_taken : ∃ response fields,
    (serve plainHasher registerTaken
      (worldAfter plainHasher (emptyWorld .initial) [registerAda])).outcome = .finished response ∧
    response.status = 400 ∧ response.fields? = some fields ∧
    ∀ name, name ∈ fields ↔ name = "username" := by
  have sent : registerTaken.request.form registrationFields =
      .ok [("username", " ada "), ("password1", "x"), ("password2", "x")] := by decide +kernel
  have accepted : Registration.ofFields " ada " "x" "x" = .ok ⟨ada, "x"⟩ := by decide +kernel
  have sound : ∀ name,
      ¬Broken [("username", " ada "), ("password1", "x"), ("password2", "x")] name :=
    Registration.not_breaks_of_accepted accepted
  have taken : (worldAfter plainHasher (emptyWorld .initial) [registerAda]).users.Taken
      " ada " := by
    obtain ⟨name, user, found, text⟩ := ada_taken
    exact ⟨name, user, found, text.trans (by decide +kernel)⟩
  obtain ⟨response, ended, refused, told⟩ := registration_faults_told plainHasher .initial
    [registerAda] rfl registerTaken (by decide +kernel) sent
  have status := refused.mpr ⟨"username", Or.inr ⟨rfl, taken⟩⟩
  obtain ⟨fields, listed, together, _⟩ := told status
  refine ⟨response, fields, ended, status, listed, ?_⟩
  intro name
  rw [together fun _ => sound]
  constructor
  · rintro (broken | ⟨same, _⟩)
    · exact (sound name broken).elim
    · exact same
  · intro same
    exact Or.inr ⟨same, taken⟩

/-- A registration under the name of ada, and without passwords. -/
def registerBare : Visit :=
  .numbered 2 "POST" "/accounts/register" "username=ada&password1=&password2=" none

/-- That the username is taken goes untold when the passwords are missing. -/
theorem taken_username_untold :
    registerBare.route? = some .register ∧
    registerBare.request.form registrationFields =
      .ok [("username", "ada"), ("password1", ""), ("password2", "")] ∧
    Faulty (worldAfter plainHasher (emptyWorld .initial) [registerAda]).users
      [("username", "ada"), ("password1", ""), ("password2", "")] "username" ∧
    ∃ response, (serve plainHasher registerBare
        (worldAfter plainHasher (emptyWorld .initial) [registerAda])).outcome =
          .finished response ∧
      response.status = 400 ∧ response.fields? = some ["password1", "password2"] := by
  have route : registerBare.route? = some .register := by decide +kernel
  have sent : registerBare.request.form registrationFields =
      .ok [("username", "ada"), ("password1", ""), ("password2", "")] := by decide +kernel
  refine ⟨route, sent, Or.inr ⟨rfl, ada_taken⟩, ?_⟩
  obtain ⟨response, ended, status, fields⟩ := register_refused plainHasher
    (worldAfter plainHasher (emptyWorld .initial) [registerAda]) route sent rfl
  exact ⟨response, ended, status, fields⟩

end Http

end Folio
