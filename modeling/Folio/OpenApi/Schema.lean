import Folio.Problem

/-!
# Schemas of the API document

The shapes of the values that the API takes and gives.
-/

namespace Folio.OpenApi

/-- A reference to a schema of the document. -/
def reference (name : String) : Json :=
  .object [("$ref", .str ("#/components/schemas/" ++ name))]

/-- A schema of a type, with more members. -/
def typed (type : String) (members : List (String × Json)) : Json :=
  .object (("type", .str type) :: members)

/-- Text that may be missing. -/
def optionalText (members : List (String × Json)) : Json :=
  .object (("type", .strs ["string", "null"]) :: members)

/-- A description among the members of a schema. -/
def described (text : String) : String × Json :=
  ("description", .str text)

/-- A property of an object. -/
structure Property where
  name : String
  schema : Json
  required : Bool := true

/-- The schema of an object. -/
def objectSchema (description : String) (properties : List Property) : Json :=
  let required := (properties.filter (·.required)).map (·.name)
  .object ([("type", .str "object"), described description,
      ("properties", .object (properties.map fun p => (p.name, p.schema)))]
    ++ if required.isEmpty then [] else [("required", .strs required)])

/-- The schema of an object that has no other members. -/
def closedSchema (description : String) (properties : List Property) : Json :=
  match objectSchema description properties with
  | .obj members => .object (("additionalProperties", .bool false) :: members)
  | other => other

/-- A form field, empty unless given. -/
def formField (name : String) : Property :=
  { name, schema := typed "string" [("default", .str "")], required := false }

/-- An id that serves as an example. -/
def exampleId : Json := .str "3fa85f64-5717-4562-b3fc-2c963f66afa6"

/-- Documents. -/
def documentSchema : Json :=
  objectSchema "A document owned by a user." [
    ⟨"id", typed "string" [("format", .str "uuid"), described "Document identifier."], true⟩,
    ⟨"userId", typed "string" [described "Owner of the document."], true⟩,
    ⟨"title", typed "string" [described "Display title."], true⟩,
    ⟨"isPublic", typed "boolean" [described "Whether non-owners may see the document."], true⟩,
    ⟨"createdAt", typed "string" [("format", .str "date-time"),
      described "Creation timestamp, used for newest-first ordering."], true⟩]

/-- Problems. -/
def errorSchema : Json :=
  closedSchema
    ("Domain error payload.\n\n## Invariants\n" ++
      "- `message` must be non-empty once trimmed of whitespace.")
    [⟨"code", reference "ErrorCode", true⟩,
     ⟨"message", typed "string" [("example", .str "Something went wrong")], true⟩,
     ⟨"traceId", optionalText [("example", exampleId)], false⟩,
     ⟨"details", .object [], false⟩]

/-- The codes of problems. -/
def errorCodeSchema : Json :=
  typed "string" [
    described "Stable machine-readable error code describing the failure category.",
    ("enum", .strs (ProblemCode.all.map ProblemCode.name))]

/-- Answers to requests to follow. -/
def followResponseSchema : Json :=
  .object [
    ("oneOf", .arr [
      objectSchema "The request took effect (or was a no-op unfollow)."
        [⟨"success", typed "boolean" [described "Always `true`."], true⟩],
      objectSchema "The request was refused without changing state."
        [⟨"error", typed "string" [described "Human-readable reason."], true⟩]]),
    described ("JSON body returned by follow and unfollow requests.\n\n" ++
      "Both variants are delivered with a success status; `error` is a soft\n" ++
      "failure the client displays as-is.")]

/-- What the form pages show. -/
def formContextSchema : Json :=
  objectSchema "Context returned by the form pages in place of a rendered template." [
    ⟨"fields", typed "array" [("items", typed "string" []),
      described "Field names the form expects."], true⟩,
    ⟨"next", optionalText
      [described "Post-login destination, echoed back to the login page."], false⟩]

/-- The login form. -/
def loginFormSchema : Json :=
  objectSchema "Login form body." [formField "username", formField "password"]

/-- The registration form. -/
def registrationFormSchema : Json :=
  objectSchema "Registration form body."
    [formField "username", formField "password1", formField "password2"]

/-- Profile pages. -/
def profilePageSchema : Json :=
  objectSchema "Context rendered for a profile page." [
    ⟨"profile", .object [("$ref", .str "#/components/schemas/User"),
      described "The viewed user."], true⟩,
    ⟨"documents", typed "array" [("items", reference "Document"),
      described "Documents owned by `profile` that the viewer may see, newest first."], true⟩,
    ⟨"isFollowed", typed "boolean" [described "Whether the viewer follows `profile`."], true⟩,
    ⟨"canFollow", typed "boolean" [described "Whether the viewer may follow `profile`."], true⟩]

/-- Users. -/
def userSchema : Json :=
  closedSchema "Application user as exposed to other users."
    [⟨"id", typed "string" [("example", exampleId)], true⟩,
     ⟨"username", typed "string" [("example", .str "ada")], true⟩]

/-- All schemas, by name. -/
def schemas : Json :=
  .object [
    ("Document", documentSchema),
    ("Error", errorSchema),
    ("ErrorCode", errorCodeSchema),
    ("FollowResponse", followResponseSchema),
    ("FormContext", formContextSchema),
    ("LoginForm", loginFormSchema),
    ("ProfilePage", profilePageSchema),
    ("RegistrationForm", registrationFormSchema),
    ("User", userSchema)]

end Folio.OpenApi
