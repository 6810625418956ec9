import Folio.Http.Accounts
import Folio.Proofs.Registration

/-!
# The account forms

Three readers look at the fields of the account forms: the one that makes a registration of them,
the one that makes credentials of them, and the check before the second. `account_forms_agree` says
what each accepts, and that nothing one of them accepts is refused by another.
-/

namespace Folio

namespace Http

/-- Opens a session for the user whom credentials belong to. -/
def Handler.enter (trace : Option TraceId) (credentials : LoginCredentials) (target : String) :
    Handler Response := do
  let id ← ofService (Account.authenticate trace credentials)
  startSession trace id
  pure (Response.redirect target)

/-- A form is refused with the messages for its fields, or login goes on with its credentials. -/
theorem Handler.login_eq (trace : Option TraceId) (next : String) (form : List (String × String)) :
    login trace next form =
      match LoginCredentials.ofFields (field form "username") (field form "password") with
      | .error _ =>
        refuseForm trace (loginFormErrors (field form "username") (field form "password"))
          "login form is invalid"
      | .ok credentials => enter trace credentials (nextOrHome next) := by
  unfold login
  dsimp only
  cases read : LoginCredentials.ofFields (field form "username") (field form "password") with
  | error e =>
    have spoken : (loginFormErrors (field form "username") (field form "password")).isEmpty =
        false := by
      rw [Bool.eq_false_iff, ne_eq, loginFormErrors_isEmpty_iff_ofFields, read]
      nofun
    rw [spoken]
    rfl
  | ok credentials =>
    have silent := loginFormErrors_isEmpty_iff_ofFields.mpr ⟨credentials, read⟩
    rw [silent]
    rfl

/-- The form to register is accepted exactly with a username and a password that is given twice, and
then keeps both; otherwise the errors are some, one for each field that is wrong. What it accepts is
accepted to log in, as the same credentials. The messages for the form to log in are none exactly
when there are credentials, so that logging in never meets credentials that are refused later. -/
theorem account_forms_agree (username password1 password2 password : String) :
    (∀ registration, Registration.ofFields username password1 password2 = .ok registration ↔
      Username.parse username = .ok registration.username ∧ password1 ≠ "" ∧
        password1 = password2 ∧ registration.password = password1) ∧
    (¬((∃ name, Username.parse username = .ok name) ∧ password1 ≠ "" ∧ password1 = password2) →
      ∃ errors, Registration.ofFields username password1 password2 = .error errors ∧
        errors.isEmpty = false ∧ errors.Single ∧
        ∀ field, field ∈ errors.names ↔
          field = "username" ∧ (∃ e, Username.parse username = .error e) ∨
          field = "password1" ∧ password1 = "" ∨
          field = "password2" ∧ (password2 = "" ∨ password1 ≠ "" ∧ password1 ≠ password2)) ∧
    (∀ registration, Registration.ofFields username password1 password2 = .ok registration →
      LoginCredentials.ofFields username password1 = .ok registration.credentials ∧
        Username.parse registration.credentials.username = .ok registration.username) ∧
    ((loginFormErrors username password).isEmpty = true ↔
      ∃ credentials, LoginCredentials.ofFields username password = .ok credentials) ∧
    ∀ trace next form, Handler.login trace next form =
      match LoginCredentials.ofFields (field form "username") (field form "password") with
      | .error _ =>
        Handler.refuseForm trace
          (loginFormErrors (field form "username") (field form "password"))
          "login form is invalid"
      | .ok credentials => Handler.enter trace credentials (nextOrHome next) := by
  refine ⟨fun registration => Registration.ofFields_eq_ok_iff, ?_,
    fun registration => Registration.credentials_of_ofFields,
    loginFormErrors_isEmpty_iff_ofFields, Handler.login_eq⟩
  intro wrong
  cases read : Registration.ofFields username password1 password2 with
  | ok registration =>
    obtain ⟨named, given, same, _⟩ := Registration.ofFields_eq_ok_iff.mp read
    exact (wrong ⟨⟨_, named⟩, given, same⟩).elim
  | error errors =>
    obtain ⟨field, broken⟩ := Registration.breaks_of_refused read
    have named := (Registration.mem_errors_iff read).mpr broken
    have some : errors.isEmpty = false := by
      rw [Bool.eq_false_iff]
      exact fun none => FormErrors.isEmpty_iff.mp none field named
    refine ⟨errors, rfl, some, Registration.single_of_refused read, ?_⟩
    intro field
    rw [Registration.mem_errors_iff read, Registration.breaks_iff]
    constructor
    · rintro (second | first | name)
      · exact Or.inr (Or.inr second)
      · exact Or.inr (Or.inl first)
      · exact Or.inl name
    · rintro (name | first | second)
      · exact Or.inr (Or.inr name)
      · exact Or.inr (Or.inl first)
      · exact Or.inl second

def eli : Username := ⟨"eli", by decide, by decide, by decide +kernel⟩

/-- A username with blanks around it and a password that begins with one; and a form with a
character that is not allowed and only the second of the passwords. -/
theorem account_forms_agree_spaced :
    Registration.ofFields "\u3000eli\n" " pw" " pw" = .ok ⟨eli, " pw"⟩ ∧
      LoginCredentials.ofFields "\u3000eli\n" " pw" = .ok ⟨"eli", " pw"⟩ ∧
      (∃ errors, Registration.ofFields "eli!" "" "pw" = .error errors ∧ errors.Single ∧
        "username" ∈ errors.names ∧ "password1" ∈ errors.names ∧ "password2" ∉ errors.names) ∧
      ∃ credentials, LoginCredentials.ofFields "eli!" "pw" = .ok credentials := by
  obtain ⟨accepted, _, credentials, _, _⟩ :=
    account_forms_agree "\u3000eli\n" " pw" " pw" " pw"
  obtain ⟨_, refused, _, login, _⟩ := account_forms_agree "eli!" "" "pw" "pw"
  have trimmed : Text.trim "\u3000eli\n" = eli.text := by rfl
  have read : Username.parse "\u3000eli\n" = .ok eli := by
    rw [← Username.parse_trim, trimmed, Username.parse_text]
  have registered := (accepted ⟨eli, " pw"⟩).mpr ⟨read, by decide, rfl, rfl⟩
  have forbidden : ∃ e, Username.parse "eli!" = .error e := by
    rw [Username.parse_error_iff]
    exact Or.inr (Or.inr ⟨'!', by decide +kernel, by decide +kernel⟩)
  obtain ⟨errors, failed, _, single, names⟩ := refused fun given => given.2.1 rfl
  refine ⟨registered, (credentials _ registered).1, ⟨errors, failed, single, ?_, ?_, ?_⟩,
    login.mp (by decide +kernel)⟩
  · exact (names _).mpr (Or.inl ⟨rfl, forbidden⟩)
  · exact (names _).mpr (Or.inr (Or.inl ⟨rfl, rfl⟩))
  · simp [names]

end Http

end Folio
