import Folio.Credentials
import Folio.Proofs.Username

/-!
# The forms to register and to log in

`Registration.Breaks` gives the rules of the form to register, by the field that breaks them. A form
that breaks a rule is refused, and the errors name exactly the fields that do, all of them at once.
What is accepted there is accepted to log in.
-/

namespace Folio

namespace FormErrors

variable {errors : FormErrors} {name field message : String}

/-- The fields that have messages. -/
def names (errors : FormErrors) : List String :=
  errors.fields.map (·.1)

theorem mem_insert (fields : List (String × List String)) :
    name ∈ (insert field message fields).map (·.1) ↔
      name = field ∨ name ∈ fields.map (·.1) := by
  induction fields with
  | nil => simp [insert]
  | cons entry rest ih =>
    obtain ⟨other, messages⟩ := entry
    rw [insert]
    split
    · simp
    · split
      · rename_i same
        simp [same]
      · rw [List.map_cons, List.mem_cons, ih, List.map_cons, List.mem_cons]
        exact or_left_comm

theorem not_mem_names_empty : name ∉ empty.names := by
  simp [names, empty]

theorem mem_names_add (errors : FormErrors) :
    name ∈ (errors.add field message).names ↔ name = field ∨ name ∈ errors.names :=
  mem_insert errors.fields

theorem mem_names_addIf (errors : FormErrors) (wrong : Bool) :
    name ∈ (errors.addIf wrong field message).names ↔
      name = field ∧ wrong = true ∨ name ∈ errors.names := by
  unfold addIf
  cases wrong with
  | false => simp
  | true => simp [mem_names_add]

theorem isEmpty_iff : errors.isEmpty = true ↔ ∀ name, name ∉ errors.names := by
  unfold isEmpty names
  rw [List.isEmpty_iff, ← List.eq_nil_iff_forall_not_mem, List.map_eq_nil_iff]

/-- Every field stands there once, with one message. -/
structure Single (errors : FormErrors) : Prop where
  distinct : errors.names.Nodup
  alone : ∀ entry ∈ errors.fields, ∃ message, entry.2 = [message]

theorem insert_perm {fields : List (String × List String)} (new : field ∉ fields.map (·.1)) :
    (insert field message fields).Perm ((field, [message]) :: fields) := by
  induction fields with
  | nil => exact .refl _
  | cons entry rest ih =>
    obtain ⟨name, messages⟩ := entry
    simp only [List.map_cons, List.mem_cons, not_or] at new
    obtain ⟨different, later⟩ := new
    rw [insert]
    split
    · exact .refl _
    · have moved := (ih later).cons (name, messages)
      exact moved.trans (.swap _ _ _)

theorem single_empty : empty.Single :=
  ⟨List.nodup_nil, nofun⟩

theorem Single.add (single : errors.Single) (new : field ∉ errors.names) :
    (errors.add field message).Single := by
  have perm : (insert field message errors.fields).Perm ((field, [message]) :: errors.fields) :=
    insert_perm new
  refine ⟨?_, ?_⟩
  · have names := (perm.map (·.1)).nodup_iff
    exact names.mpr (List.nodup_cons.mpr ⟨new, single.distinct⟩)
  · intro entry member
    rcases List.mem_cons.mp (perm.mem_iff.mp member) with rfl | old
    · exact ⟨message, rfl⟩
    · exact single.alone entry old

theorem Single.addIf (single : errors.Single) (wrong : Bool) (new : field ∉ errors.names) :
    (errors.addIf wrong field message).Single := by
  cases wrong with
  | false => exact single
  | true => exact single.add new

end FormErrors

/-! ### The form to log in -/

section Login

variable {username password : String}

theorem LoginCredentials.ofFields_eq_ok_iff {credentials : LoginCredentials} :
    ofFields username password = .ok credentials ↔
      Text.trim username ≠ "" ∧ password ≠ "" ∧ credentials = ⟨Text.trim username, password⟩ := by
  unfold ofFields
  dsimp only
  by_cases blank : Text.trim username = ""
  · simp [blank]
  · by_cases missing : password = ""
    · simp [blank, missing]
    · simp [blank, missing, eq_comm]

theorem loginFormErrors_isEmpty_iff :
    (loginFormErrors username password).isEmpty = true ↔
      Text.trim username ≠ "" ∧ password ≠ "" := by
  rw [FormErrors.isEmpty_iff]
  unfold loginFormErrors
  simp only [FormErrors.mem_names_addIf, FormErrors.not_mem_names_empty, or_false, beq_iff_eq]
  constructor
  · intro silent
    exact ⟨fun blank => silent "username" (Or.inr ⟨rfl, blank⟩),
      fun missing => silent "password" (Or.inl ⟨rfl, missing⟩)⟩
  · rintro ⟨filled, given⟩ name
    simp [filled, given]

/-- The messages for the fields are none exactly when there are credentials. -/
theorem loginFormErrors_isEmpty_iff_ofFields :
    (loginFormErrors username password).isEmpty = true ↔
      ∃ credentials, LoginCredentials.ofFields username password = .ok credentials := by
  simp only [LoginCredentials.ofFields_eq_ok_iff, loginFormErrors_isEmpty_iff]
  constructor
  · rintro ⟨filled, given⟩
    exact ⟨_, filled, given, rfl⟩
  · rintro ⟨_, filled, given, _⟩
    exact ⟨filled, given⟩

end Login

/-! ### The form to register -/

namespace Registration

variable {username password1 password2 name : String}

/-- A field of the form breaks a rule. -/
inductive Breaks (username password1 password2 : String) : String → Prop where
  | blank (blank : Text.trim username = "") : Breaks username password1 password2 "username"
  | long (long : usernameLimit < (Text.trim username).length) :
      Breaks username password1 password2 "username"
  | forbidden {c : Char} (stands : c ∈ (Text.trim username).toList)
      (forbidden : isUsernameChar c = false) : Breaks username password1 password2 "username"
  | missing (missing : password1 = "") : Breaks username password1 password2 "password1"
  | unrepeated (missing : password2 = "") : Breaks username password1 password2 "password2"
  | mismatched (given : password1 ≠ "") (repeated : password2 ≠ "")
      (differ : password1 ≠ password2) : Breaks username password1 password2 "password2"

/-- The rules in the terms of the checks. -/
theorem breaks_iff :
    Breaks username password1 password2 name ↔
      name = "password2" ∧ (password2 = "" ∨ password1 ≠ "" ∧ password1 ≠ password2) ∨
      name = "password1" ∧ password1 = "" ∨
      name = "username" ∧ ∃ e, Username.parse username = .error e := by
  rw [Username.parse_error_iff]
  constructor
  · intro breaks
    cases breaks with
    | blank blank => exact Or.inr (Or.inr ⟨rfl, Or.inl blank⟩)
    | long long => exact Or.inr (Or.inr ⟨rfl, Or.inr (Or.inl long)⟩)
    | forbidden stands forbidden =>
      exact Or.inr (Or.inr ⟨rfl, Or.inr (Or.inr ⟨_, stands, forbidden⟩)⟩)
    | missing missing => exact Or.inr (Or.inl ⟨rfl, missing⟩)
    | unrepeated missing => exact Or.inl ⟨rfl, Or.inl missing⟩
    | mismatched given _ differ => exact Or.inl ⟨rfl, Or.inr ⟨given, differ⟩⟩
  · rintro (⟨rfl, missing | ⟨given, differ⟩⟩ | ⟨rfl, missing⟩ |
      ⟨rfl, blank | long | ⟨c, stands, forbidden⟩⟩)
    · exact .unrepeated missing
    · by_cases missing : password2 = ""
      · exact .unrepeated missing
      · exact .mismatched given missing differ
    · exact .missing missing
    · exact .blank blank
    · exact .long long
    · exact .forbidden stands forbidden

theorem mem_passwordErrors (errors : FormErrors) :
    name ∈ (passwordErrors errors password1 password2).names ↔
      name = "password2" ∧ (password2 = "" ∨ password1 ≠ "" ∧ password1 ≠ password2) ∨
      name = "password1" ∧ password1 = "" ∨ name ∈ errors.names := by
  unfold passwordErrors
  dsimp only
  split
  · rename_i missing
    rw [FormErrors.mem_names_add, FormErrors.mem_names_addIf]
    simp [missing]
  · rename_i repeated
    rw [FormErrors.mem_names_addIf, FormErrors.mem_names_addIf]
    simp [repeated]

theorem passwordErrors_isEmpty_iff :
    (passwordErrors .empty password1 password2).isEmpty = true ↔
      password1 ≠ "" ∧ password1 = password2 := by
  rw [FormErrors.isEmpty_iff]
  simp only [mem_passwordErrors, FormErrors.not_mem_names_empty, or_false]
  constructor
  · intro silent
    have given : password1 ≠ "" := fun missing => silent "password1" (Or.inr ⟨rfl, missing⟩)
    refine ⟨given, ?_⟩
    by_cases same : password1 = password2
    · exact same
    · exact (silent "password2" (Or.inl ⟨rfl, Or.inr ⟨given, same⟩⟩)).elim
  · rintro ⟨given, rfl⟩ name
    simp [given]

/-- The forms that are accepted, and what a registration keeps of them. -/
theorem ofFields_eq_ok_iff {registration : Registration} :
    ofFields username password1 password2 = .ok registration ↔
      Username.parse username = .ok registration.username ∧ password1 ≠ "" ∧
        password1 = password2 ∧ registration.password = password1 := by
  unfold ofFields
  cases read : Username.parse username with
  | error e => simp
  | ok name =>
    dsimp only
    split
    · rename_i silent
      obtain ⟨given, same⟩ := passwordErrors_isEmpty_iff.mp silent
      constructor
      · intro accepted
        cases accepted
        exact ⟨rfl, given, same, rfl⟩
      · rintro ⟨named, _, _, kept⟩
        obtain ⟨own, password⟩ := registration
        cases named
        cases kept
        rfl
    · rename_i spoken
      constructor
      · nofun
      · rintro ⟨_, given, same, _⟩
        exact (spoken (passwordErrors_isEmpty_iff.mpr ⟨given, same⟩)).elim

/-- The errors of a form that is refused name every field that breaks a rule, and no other. -/
theorem mem_errors_iff {errors : FormErrors}
    (refused : ofFields username password1 password2 = .error errors) :
    name ∈ errors.names ↔ Breaks username password1 password2 name := by
  rw [breaks_iff]
  unfold ofFields at refused
  cases read : Username.parse username with
  | ok parsed =>
    rw [read] at refused
    dsimp only at refused
    split at refused
    · cases refused
    · cases refused
      simp [mem_passwordErrors, FormErrors.not_mem_names_empty]
  | error e =>
    rw [read] at refused
    cases refused
    simp [mem_passwordErrors, FormErrors.mem_names_add, FormErrors.not_mem_names_empty]

theorem breaks_of_refused {errors : FormErrors}
    (refused : ofFields username password1 password2 = .error errors) :
    ∃ name, Breaks username password1 password2 name := by
  suffices some : ∃ name, name ∈ errors.names by
    obtain ⟨name, named⟩ := some
    exact ⟨name, (mem_errors_iff refused).mp named⟩
  unfold ofFields at refused
  cases read : Username.parse username with
  | ok parsed =>
    rw [read] at refused
    dsimp only at refused
    split at refused
    · cases refused
    · rename_i spoken
      cases refused
      rw [FormErrors.isEmpty_iff] at spoken
      exact Classical.not_forall_not.mp spoken
  | error e =>
    rw [read] at refused
    cases refused
    exact ⟨"username", by simp [mem_passwordErrors, FormErrors.mem_names_add]⟩

theorem not_breaks_of_accepted {registration : Registration}
    (accepted : ofFields username password1 password2 = .ok registration) (name : String) :
    ¬Breaks username password1 password2 name := by
  obtain ⟨read, given, rfl, _⟩ := ofFields_eq_ok_iff.mp accepted
  rw [breaks_iff]
  rintro (⟨_, missing | ⟨_, differ⟩⟩ | ⟨_, missing⟩ | ⟨_, e, failed⟩)
  · exact given missing
  · exact differ rfl
  · exact given missing
  · rw [read] at failed
    cases failed

theorem single_passwordErrors {errors : FormErrors} (single : errors.Single)
    (first : "password1" ∉ errors.names) (second : "password2" ∉ errors.names) :
    (passwordErrors errors password1 password2).Single := by
  have started : (errors.addIf (password1 == "") "password1" fieldRequired).Single :=
    single.addIf _ first
  have absent : "password2" ∉ (errors.addIf (password1 == "") "password1" fieldRequired).names := by
    simp [FormErrors.mem_names_addIf, second]
  unfold passwordErrors
  dsimp only
  split
  · exact started.add absent
  · exact started.addIf _ absent

theorem single_of_refused {errors : FormErrors}
    (refused : ofFields username password1 password2 = .error errors) : errors.Single := by
  unfold ofFields at refused
  cases read : Username.parse username with
  | ok name =>
    rw [read] at refused
    dsimp only at refused
    split at refused
    · cases refused
    · cases refused
      exact single_passwordErrors FormErrors.single_empty FormErrors.not_mem_names_empty
        FormErrors.not_mem_names_empty
  | error e =>
    rw [read] at refused
    cases refused
    have named : (FormErrors.empty.add "username" (usernameMessage e)).Single :=
      FormErrors.single_empty.add FormErrors.not_mem_names_empty
    refine single_passwordErrors named ?_ ?_
    · simp [FormErrors.mem_names_add, FormErrors.not_mem_names_empty]
    · simp [FormErrors.mem_names_add, FormErrors.not_mem_names_empty]

/-- Whoever registers can log in with what was submitted. -/
theorem credentials_of_ofFields {registration : Registration}
    (accepted : ofFields username password1 password2 = .ok registration) :
    LoginCredentials.ofFields username password1 = .ok registration.credentials ∧
      Username.parse registration.credentials.username = .ok registration.username := by
  obtain ⟨read, given, _, kept⟩ := ofFields_eq_ok_iff.mp accepted
  have trimmed := Username.text_of_parse read
  have filled : Text.trim username ≠ "" := by
    rw [← trimmed]
    exact registration.username.nonempty
  refine ⟨LoginCredentials.ofFields_eq_ok_iff.mpr ⟨filled, given, ?_⟩,
    registration.username.parse_text⟩
  unfold credentials
  rw [trimmed, kept]

end Registration

end Folio
