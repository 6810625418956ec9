import Folio.OpenApi.Schema

/-!
# Operations of the API document

What each method of each path takes and gives.
-/

namespace Folio.OpenApi

/-- A header of a response. -/
structure HeaderDoc where
  name : String
  description : String

/-- A response, with the schema of its body. -/
structure ResponseDoc where
  status : Nat
  description : String
  body : Option String := none
  headers : List HeaderDoc := []

/-- An operation of the API. -/
structure Operation where
  path : String
  method : String
  id : String
  tag : String
  summary : String
  description : Option String := none
  parameters : List Json := []
  form : Option String := none
  responses : List ResponseDoc
  /-- Whether no session is needed. -/
  isPublic : Bool := true

/-- Content of one type. -/
def content (contentType schema : String) : String × Json :=
  ("content", .object [(contentType, .object [("schema", reference schema)])])

/-- A header as JSON. -/
def HeaderDoc.toJson (header : HeaderDoc) : Json :=
  .object [("schema", typed "string" []), described header.description]

/-- A response as JSON. -/
def ResponseDoc.toJson (response : ResponseDoc) : Json :=
  .object (described response.description
    :: (response.body.map (content "application/json")).toList
    ++ (if response.headers.isEmpty then []
        else [("headers", .object (response.headers.map fun h => (h.name, h.toJson)))]))

/-- An operation as JSON. -/
def Operation.toJson (operation : Operation) : Json :=
  let form := operation.form.map fun schema =>
    ("requestBody", Json.object
      [content "application/x-www-form-urlencoded" schema, ("required", .bool true)])
  .object ([
      ("tags", .strs [operation.tag]),
      ("summary", .str operation.summary),
      ("operationId", .str operation.id),
      ("responses", .object (operation.responses.map fun r => (toString r.status, r.toJson)))]
    ++ (operation.description.map described).toList
    ++ (if operation.parameters.isEmpty then [] else [("parameters", .arr operation.parameters)])
    ++ form.toList
    ++ (if operation.isPublic then [("security", .arr [.object []])] else []))

/-- The username in a path. -/
def usernameParameter : Json :=
  .object [("name", .str "username"), ("in", .str "path"), described "Profile username",
    ("required", .bool true), ("schema", typed "string" [])]

/-- The destination after a login. -/
def nextParameter : Json :=
  .object [("name", .str "next"), ("in", .str "query"),
    described "Where to redirect after login.", ("required", .bool false),
    ("schema", optionalText [])]

/-- A response that is a problem. -/
def problemDoc (status : Nat) (description : String) : ResponseDoc :=
  { status, description, body := some "Error" }

/-- A response for failures inside. -/
def internalDoc : ResponseDoc := problemDoc 500 "Internal server error"

/-- The headers of a response that opens a session. -/
def sessionHeaders : List HeaderDoc :=
  [⟨"Location", "Redirect target"⟩, ⟨"Set-Cookie", "Session cookie"⟩]

/-- The operations on accounts. -/
def accountOperations : List Operation := [
  { path := "/accounts/register", method := "get", id := "registrationForm", tag := "accounts"
    summary := "Empty registration form."
    responses := [⟨200, "Registration form", some "FormContext", []⟩] },
  { path := "/accounts/register", method := "post", id := "register", tag := "accounts"
    summary := "Create an account, log it in, and redirect home."
    form := some "RegistrationForm"
    responses := [⟨302, "Registered and logged in", none, sessionHeaders⟩,
      problemDoc 400 "Invalid form", internalDoc] },
  { path := "/accounts/login", method := "get", id := "loginForm", tag := "accounts"
    summary := "Login form, echoing the `next` parameter."
    parameters := [nextParameter]
    responses := [⟨200, "Login form", some "FormContext", []⟩] },
  { path := "/accounts/login", method := "post", id := "login", tag := "accounts"
    summary := "Authenticate and redirect to `next` or home."
    parameters := [nextParameter]
    form := some "LoginForm"
    responses := [⟨302, "Logged in", none, sessionHeaders⟩, problemDoc 400 "Invalid form",
      problemDoc 401 "Invalid credentials", internalDoc] },
  { path := "/accounts/logout", method := "get", id := "logout", tag := "accounts"
    summary := "Revoke the user's sessions and redirect home."
    description := some ("Every session cookie issued to the user before this call stops\n" ++
      "authenticating, not only the one presented.")
    responses := [⟨302, "Logged out", none, [⟨"Location", "Home path"⟩]⟩,
      problemDoc 503 "Session store unavailable"] }]

/-- The operations on profiles. -/
def profileOperations : List Operation := [
  { path := "/profiles/\x7busername\x7d", method := "get", id := "getProfile", tag := "profiles"
    summary := "Profile page context with visible documents and follow flags."
    parameters := [usernameParameter]
    responses := [⟨200, "Profile context", some "ProfilePage", []⟩,
      problemDoc 404 "Unknown user", internalDoc]
    isPublic := false },
  { path := "/profiles/\x7busername\x7d", method := "post", id := "followProfile"
    tag := "profiles"
    summary := "Follow the profile user."
    description := some ("Answers `200` with `\x7b\"success\": true\x7d`, or with\n" ++
      "`\x7b\"error\": \"You already following this people.\"\x7d` when the edge exists.")
    parameters := [usernameParameter]
    responses := [⟨200, "Follow outcome", some "FollowResponse", []⟩,
      problemDoc 401 "Login required", problemDoc 404 "Unknown user", internalDoc]
    isPublic := false },
  { path := "/profiles/\x7busername\x7d", method := "delete", id := "unfollowProfile"
    tag := "profiles"
    summary := "Unfollow the profile user; succeeds even when no edge existed."
    parameters := [usernameParameter]
    responses := [⟨200, "Unfollowed", some "FollowResponse", []⟩,
      problemDoc 401 "Login required", problemDoc 404 "Unknown user", internalDoc]
    isPublic := false }]

/-- The health checks. -/
def healthOperations : List Operation := [
  { path := "/health/ready", method := "get", id := "ready", tag := "health"
    summary := "Readiness check: 200 once the server can handle traffic, 503 before."
    responses := [⟨200, "Server is ready to handle traffic", none, []⟩,
      ⟨503, "Server is not ready", none, []⟩] },
  { path := "/health/live", method := "get", id := "live", tag := "health"
    summary := "Liveness check: 200 while the process is alive, 503 once draining."
    responses := [⟨200, "Server is alive", none, []⟩,
      ⟨503, "Server is shutting down", none, []⟩] }]

/-- All operations. -/
def operations : List Operation :=
  accountOperations ++ profileOperations ++ healthOperations

/-- The methods of every path. -/
def paths : Json :=
  let methods (path : String) : Json :=
    .object ((operations.filter (·.path = path)).map fun o => (o.method, o.toJson))
  .object (operations.map fun o => (o.path, methods o.path))

end Folio.OpenApi
