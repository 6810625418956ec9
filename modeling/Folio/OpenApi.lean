import Folio.OpenApi.Operation

/-!
# The API document

A description of the API for people and programs that use it.
-/

namespace Folio.OpenApi

/-- Title, version and terms of the API. -/
def info : Json :=
  .object [
    ("title", .str "docshare API"),
    described "Account sessions, profile pages and follow toggles.",
    ("license", .object [
      ("name", .str "Apache-2.0"),
      ("url", .str "https://www.apache.org/licenses/LICENSE-2.0.html")]),
    ("version", .str "0.1.0")]

/-- A group of operations. -/
def tag (name description : String) : Json :=
  .object [("name", .str name), described description]

/-- How requests show who sends them. -/
def securitySchemes : Json :=
  .object [("SessionCookie", .object [
    ("type", .str "apiKey"), ("in", .str "cookie"), ("name", .str "session"),
    described "Session cookie issued by POST /accounts/login or /accounts/register."])]

/-- The description of the API. -/
def document : Json :=
  .object [
    ("openapi", .str "3.1.0"),
    ("info", info),
    ("servers", .arr [
      .object [("url", .str "/"), described "Relative to the deployment base URL"]]),
    ("paths", paths),
    ("components", .object [("schemas", schemas), ("securitySchemes", securitySchemes)]),
    ("security", .arr [.object [("SessionCookie", .arr [])]]),
    ("tags", .arr [
      tag "accounts" "Registration, login and logout",
      tag "profiles" "Profile pages and follow toggles",
      tag "health" "Endpoints for health checks"])]

end Folio.OpenApi
