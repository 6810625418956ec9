import Folio.Proofs.Http.Unchanged

/-!
# Refused logins

A login is refused because its username breaks the rules, because nobody has it, or because its
user has another password. The three refusals look the same, and leave everything as it was.
-/

namespace Folio

/-- Every hash that a hasher makes can be compared with any password. -/
def Password.Hasher.Reads (hasher : Password.Hasher) : Prop :=
  ∀ salt password hash, hasher.hash salt password = .ok hash →
    ∀ attempt, ∃ verified, hasher.verify attempt hash = .ok verified

namespace Users

/-- The stored hashes were made by a hasher. -/
def HashedBy (hasher : Password.Hasher) (users : Users) : Prop :=
  ∀ id stored, users.records.get? id = some stored →
    ∃ salt password, hasher.hash salt password = .ok stored.hash

/-- A username and a password belong to somebody. Blanks around the username do not count. -/
def Authenticates (hasher : Password.Hasher) (users : Users) (username password : String) : Prop :=
  ∃ name stored, users.credentials? name = some stored ∧ name.text = Text.trim username ∧
    hasher.verify password stored.hash = .ok true

variable {hasher : Password.Hasher} {users : Users}

theorem hashedBy_added {salt : List UInt8} {password : String} {hash : PasswordHash}
    (hashed : HashedBy hasher users) (made : hasher.hash salt password = .ok hash) (user : User) :
    HashedBy hasher (users.added user hash) := by
  intro id stored found
  unfold added at found
  rw [Table.get?_insert] at found
  split at found
  · cases found
    exact ⟨salt, password, made⟩
  · exact hashed id stored found

theorem hashedBy_credentials {name : Username} {stored : StoredCredentials}
    (hashed : HashedBy hasher users) (found : users.credentials? name = some stored) :
    ∃ salt password, hasher.hash salt password = .ok stored.hash := by
  obtain ⟨id, _, record⟩ := Option.bind_eq_some_iff.mp found
  exact hashed id stored record

end Users

/-- Credentials that belong to nobody are refused in one way. -/
theorem Account.authenticated_none {hasher : Password.Hasher} {users : Users}
    {username password : String} (reads : hasher.Reads) (hashed : users.HashedBy hasher)
    (stranger : ¬users.Authenticates hasher username password) (trace : Option TraceId) :
    authenticated hasher users trace ⟨Text.trim username, password⟩ = .error (badLogin trace) := by
  unfold authenticated
  dsimp only
  cases read : Username.parse (Text.trim username) with
  | error e => rfl
  | ok name =>
    have text : name.text = Text.trim username := by
      rw [Username.text_of_parse read, Text.trim_idem]
    dsimp only
    cases found : users.credentials? name with
    | none => rfl
    | some stored =>
      -- Without this the hasher could fail on what is stored, which would be answered otherwise.
      obtain ⟨salt, original, made⟩ := Users.hashedBy_credentials hashed found
      obtain ⟨verified, compared⟩ := reads salt original stored.hash made password
      dsimp only
      rw [compared]
      cases verified with
      | false => rfl
      | true => exact (stranger ⟨name, stored, found, text, compared⟩).elim

namespace Http

open Program

variable {hasher : Password.Hasher} {visit : Visit} {w : World}

theorem step_hashedBy {events : List FollowEvent} {after : World}
    (hashed : w.users.HashedBy hasher) (step : Step hasher visit w events after) :
    after.users.HashedBy hasher := by
  cases step with
  | still => exact hashed
  | loggedOut =>
    intro id stored found
    rw [Users.advance_records] at found
    exact hashed id stored found
  | registered route sent accepted free made => exact Users.hashedBy_added hashed made _
  | followed => exact hashed
  | unfollowed => exact hashed

/-- Wherever a run leads, also one that uses ids again, the stored hashes were made by the hasher. -/
theorem run_hashedBy (hasher : Password.Hasher) (dispatcher : Dispatcher) (visits : List Visit) :
    (worldAfter hasher (emptyWorld dispatcher) visits).users.HashedBy hasher := by
  induction visits using List.reverseRecOn with
  | nil => exact fun _ _ found => by cases found
  | append_singleton before visit ih =>
    obtain ⟨_, _, step⟩ :=
      serve_cases hasher visit (worldAfter hasher (emptyWorld dispatcher) before)
    rw [worldAfter_concat]
    exact step_hashedBy ih step

/-- A visit is a login that fills in both fields, with credentials that belong to nobody. -/
structure Visit.LogsInInVain (visit : Visit) (hasher : Password.Hasher) (users : Users)
    (username password : String) : Prop where
  route : visit.route? = some .login
  sent : ∃ form, visit.request.form loginFields = .ok form ∧ field form "username" = username ∧
    field form "password" = password
  named : Text.trim username ≠ ""
  given : password ≠ ""
  stranger : ¬users.Authenticates hasher username password

/-- A body without the trace id that problems carry. -/
def Body.untraced : Body → Body
  | .json (.obj members) => .json (.obj (members.filter fun member => member.1 ≠ "traceId"))
  | body => body

/-- Everything of a response but the trace id, in the headers and in the body. -/
def Response.untraced (response : Response) : Response :=
  { response with body := response.body.untraced, traceId := none }

/-- What a refused login is told. -/
def loginProblem (traceId : String) : List (String × Json) :=
  [("code", .str "unauthorized"),
   ("details", (FormErrors.empty.add nonFieldErrors invalidLogin).details),
   ("message", .str invalidLogin),
   ("traceId", .str traceId)]

/-- The answer to a refused login. Only the trace id tells two of them apart. -/
def loginRefused (trace : TraceId) : Response where
  status := 401
  body := .json (.obj (loginProblem trace.render))
  traceId := some trace.render

theorem loginRefused_untraced (one other : TraceId) :
    (loginRefused one).untraced = (loginRefused other).untraced := by
  unfold Response.untraced Body.untraced loginRefused loginProblem
  simp

theorem ofProblem_badLogin (trace : TraceId) :
    Response.ofProblem (Account.badLogin (some trace)) = loginRefused trace := by
  have traced : (Account.badLogin (some trace)).traceId = some trace.render := rfl
  have shows : (redact (Account.badLogin (some trace))).toJson =
      .obj (loginProblem trace.render) := rfl
  rw [ofProblem_traced traced, shows]
  rfl

theorem serve_login_in_vain {username password next : String} (reads : hasher.Reads)
    (hashed : w.users.HashedBy hasher) (vain : visit.LogsInInVain hasher w.users username password)
    (asked : visit.request.next = .ok next) :
    (serve hasher visit w).effect = .quiet (loginRefused visit.context.trace) w := by
  obtain ⟨route, ⟨form, sent, rfl, rfl⟩, named, given, stranger⟩ := vain
  have refused := Account.authenticated_none reads hashed stranger visit.trace
  rw [serve_login hasher w route asked sent named given]
  unfold Handler.admitted
  rw [refused]
  unfold answered App.finish
  dsimp only
  rw [cookie_start, Visit.trace, ofProblem_badLogin]
  rfl

/-- Logins that are refused look the same whatever the reason is, up to the trace id. They get no
session, announce nothing and leave the stores as they were. -/
theorem refused_logins_alike (hasher : Password.Hasher) (reads : hasher.Reads)
    (dispatcher : Dispatcher) (visits : List Visit) {w : World}
    (reached : worldAfter hasher (emptyWorld dispatcher) visits = w) {first second : Visit}
    {username password next otherName otherPassword otherNext : String}
    (vain : first.LogsInInVain hasher w.users username password)
    (asked : first.request.next = .ok next)
    (otherVain : second.LogsInInVain hasher w.users otherName otherPassword)
    (otherAsked : second.request.next = .ok otherNext) :
    ∃ one other, (serve hasher first w).outcome = .finished one ∧
      (serve hasher second w).outcome = .finished other ∧
      one.status = 401 ∧ other.status = 401 ∧ one.untraced = other.untraced ∧
      (first.context.trace = second.context.trace → one = other) ∧
      one.cookie = none ∧ other.cookie = none ∧
      (serve hasher first w).events = [] ∧ (serve hasher second w).events = [] ∧
      (serve hasher first w).state = w ∧ (serve hasher second w).state = w := by
  have hashed : w.users.HashedBy hasher := by
    rw [← reached]
    exact run_hashedBy hasher dispatcher visits
  obtain ⟨outcome, events, state⟩ :=
    Run.effect_eq (serve_login_in_vain reads hashed vain asked)
  obtain ⟨otherOutcome, otherEvents, otherState⟩ :=
    Run.effect_eq (serve_login_in_vain reads hashed otherVain otherAsked)
  exact ⟨_, _, outcome, otherOutcome, rfl, rfl, loginRefused_untraced _ _, congrArg loginRefused,
    rfl, rfl, events, otherEvents, state, otherState⟩

theorem plainHasher_reads : plainHasher.Reads :=
  fun _ _ hash _ attempt => ⟨attempt == hash.encoded, rfl⟩

theorem stranger_wrong :
    ¬(worldAfter plainHasher (emptyWorld .initial) [registerAda]).users.Authenticates plainHasher
      "ada" "wrong" := by
  rintro ⟨name, stored, found, text, verified⟩
  have trimmed : Text.trim "ada" = ada.text := by decide +kernel
  obtain rfl : name = ada := Username.ext_text (text.trans trimmed)
  have own : (worldAfter plainHasher (emptyWorld .initial) [registerAda]).users.credentials? ada =
      some ⟨⟨⟨⟨1⟩⟩, ada⟩, ⟨"pw"⟩⟩ := by decide +kernel
  cases own.symm.trans found
  have equal : ("wrong" == "pw") = true := Except.ok.inj verified
  exact absurd equal (by decide)

/-- A login with the password of somebody else. -/
def loginWrong (target : String) : Visit :=
  .numbered 2 "POST" target "username=ada&password=wrong" none

theorem loginWrong_in_vain {target : String} (route : (loginWrong target).route? = some .login)
    (sent : (loginWrong target).request.form loginFields =
      .ok [("username", "ada"), ("password", "wrong")]) :
    (loginWrong target).LogsInInVain plainHasher
      (worldAfter plainHasher (emptyWorld .initial) [registerAda]).users "ada" "wrong" :=
  ⟨route, ⟨_, sent, rfl, rfl⟩, by decide +kernel, by decide, stranger_wrong⟩

/-- A login under a name that no user can have. -/
def loginUnruly : Visit :=
  .numbered 3 "POST" "/accounts/login?next=/profiles/ada" "username=no+name!&password=pw" none

theorem refused_logins_alike_unruly : ∃ one other,
    (serve plainHasher (loginWrong "/accounts/login")
      (worldAfter plainHasher (emptyWorld .initial) [registerAda])).outcome = .finished one ∧
    (serve plainHasher loginUnruly
      (worldAfter plainHasher (emptyWorld .initial) [registerAda])).outcome = .finished other ∧
    one.status = 401 ∧ one.untraced = other.untraced := by
  have wrong : (loginWrong "/accounts/login").LogsInInVain plainHasher
      (worldAfter plainHasher (emptyWorld .initial) [registerAda]).users "ada" "wrong" :=
    loginWrong_in_vain (by decide +kernel) (by decide +kernel)
  have asked : (loginWrong "/accounts/login").request.next = .ok "" := by decide +kernel
  have unruly : loginUnruly.LogsInInVain plainHasher
      (worldAfter plainHasher (emptyWorld .initial) [registerAda]).users "no name!" "pw" := by
    refine ⟨by decide +kernel, ⟨[("username", "no name!"), ("password", "pw")], ?_, rfl, rfl⟩,
      by decide +kernel, by decide, ?_⟩
    · decide +kernel
    · rintro ⟨name, _, _, text, _⟩
      have broken : (Username.parse (Text.trim "no name!")).toOption = none := by decide +kernel
      rw [← text, Username.parse_text] at broken
      cases broken
  have otherAsked : loginUnruly.request.next = .ok "/profiles/ada" := by decide +kernel
  obtain ⟨one, other, ended, otherEnded, status, _, same, _⟩ :=
    refused_logins_alike plainHasher plainHasher_reads .initial [registerAda] rfl wrong asked
      unruly otherAsked
  exact ⟨one, other, ended, otherEnded, status, same⟩

/-- A login that names its target twice is refused for that, before its credentials are looked
at. -/
theorem repeated_next_told_apart :
    plainHasher.Reads ∧
    (loginWrong "/accounts/login").LogsInInVain plainHasher
      (worldAfter plainHasher (emptyWorld .initial) [registerAda]).users "ada" "wrong" ∧
    (loginWrong "/accounts/login?next=/a&next=/b").LogsInInVain plainHasher
      (worldAfter plainHasher (emptyWorld .initial) [registerAda]).users "ada" "wrong" ∧
    (∃ response, (serve plainHasher (loginWrong "/accounts/login")
      (worldAfter plainHasher (emptyWorld .initial) [registerAda])).outcome = .finished response ∧
      response.status = 401) ∧
    ∃ response, (serve plainHasher (loginWrong "/accounts/login?next=/a&next=/b")
      (worldAfter plainHasher (emptyWorld .initial) [registerAda])).outcome = .finished response ∧
      response.status = 400 := by
  have wrong : (loginWrong "/accounts/login").LogsInInVain plainHasher
      (worldAfter plainHasher (emptyWorld .initial) [registerAda]).users "ada" "wrong" :=
    loginWrong_in_vain (by decide +kernel) (by decide +kernel)
  have asked : (loginWrong "/accounts/login").request.next = .ok "" := by decide +kernel
  refine ⟨plainHasher_reads, wrong, ?_, ?_, ?_⟩
  · exact loginWrong_in_vain (by decide +kernel) (by decide +kernel)
  · have hashed := run_hashedBy plainHasher .initial [registerAda]
    have effect := serve_login_in_vain plainHasher_reads hashed wrong asked
    exact ⟨_, (Run.effect_eq effect).1, rfl⟩
  · exact Response.finished_of_statusOf (by decide +kernel)

end Http

end Folio
