import Folio.Problem

/-!
# Form errors

Messages for the fields of a form, in ascending order of the field names.
-/

namespace Folio

/-- Messages by field. -/
structure FormErrors where
  fields : List (String × List String)
  deriving DecidableEq, Repr

namespace FormErrors

/-- No messages. -/
def empty : FormErrors := ⟨[]⟩

/-- Adds a message after those the field already has. -/
def insert (field message : String) : List (String × List String) → List (String × List String)
  | [] => [(field, [message])]
  | (name, messages) :: rest =>
    if field < name then (field, [message]) :: (name, messages) :: rest
    else if field = name then (name, messages ++ [message]) :: rest
    else (name, messages) :: insert field message rest

/-- The errors with one more message. -/
def add (errors : FormErrors) (field message : String) : FormErrors :=
  ⟨insert field message errors.fields⟩

/-- The errors with a message when `wrong` holds. -/
def addIf (errors : FormErrors) (wrong : Bool) (field message : String) : FormErrors :=
  if wrong then errors.add field message else errors

/-- Whether there are no messages. -/
def isEmpty (errors : FormErrors) : Bool :=
  errors.fields.isEmpty

/-- The messages of a field. -/
def messages (errors : FormErrors) (field : String) : List String :=
  (errors.fields.lookup field).getD []

/-- Form errors as JSON. -/
def toJson (errors : FormErrors) : Json :=
  .obj (errors.fields.map fun (name, messages) => (name, .strs messages))

/-- Form errors as the details of a problem. -/
def details (errors : FormErrors) : Json :=
  .obj [("fields", errors.toJson)]

/-- The problem of an invalid form. -/
def toProblem (errors : FormErrors) (trace : Option TraceId) (message : String) :
    Except ProblemError Problem :=
  (Problem.new trace .invalidRequest message).map (·.withDetails errors.details)

end FormErrors

/-! ### Texts shown next to fields -/

/-- A field that may not be empty is. -/
def fieldRequired : String := "This field is required."

/-- The password was not repeated as it was. -/
def passwordMismatch : String := "The two password fields didn't match."

/-- Someone else has the username. -/
def usernameTaken : String := "A user with that username already exists."

/-- Username and password do not go together. -/
def invalidLogin : String :=
  "Please enter a correct username and password. Note that both fields may be case-sensitive."

/-- The username has a character that is not allowed. -/
def invalidUsername : String :=
  "Enter a valid username. This value may contain only letters, numbers, and @/./+/-/_ characters."

/-- The username has too many characters. -/
def usernameTooLong (limit : Nat) : String :=
  "Ensure this value has at most " ++ toString limit ++ " characters."

/-- The field for messages about the form as a whole. -/
def nonFieldErrors : String := "__all__"

end Folio
