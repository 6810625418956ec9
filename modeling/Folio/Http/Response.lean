import Folio.Http.Request
import Folio.Problem.Codec

/-!
# Responses

Responses, how a problem becomes one, and which texts a header can hold.
-/

namespace Folio.Http

/-- When a browser sends a cookie along with requests from other sites. -/
inductive SameSite where
  | strict
  | lax
  | none
  deriving DecidableEq, Repr

/-- The name of a policy in a header. -/
def SameSite.name : SameSite → String
  | strict => "Strict"
  | lax => "Lax"
  | none => "None"

/-- How session cookies are marked. -/
structure CookiePolicy where
  secure : Bool
  sameSite : SameSite
  deriving DecidableEq, Repr

/-- What a response does to the session cookie. -/
inductive CookieChange where
  | set (content : SessionContent)
  | remove

/-- A session cookie in a response. -/
structure SetCookie where
  policy : CookiePolicy
  change : CookieChange

namespace SetCookie

/-- The name of the session cookie. -/
def name : String := "session"

/-- The path that the session cookie is sent for. -/
def path : String := "/"

/-- Scripts cannot read the session cookie. -/
def httpOnly : Bool := true

/-- How long a browser keeps the cookie, in seconds: a removed one not at all, any other as long as
it runs. -/
def maxAge (cookie : SetCookie) : Option Nat :=
  match cookie.change with
  | .set _ => none
  | .remove => some 0

/-- What the cookie holds. -/
def content (cookie : SetCookie) : SessionContent :=
  match cookie.change with
  | .set content => content
  | .remove => []

end SetCookie

/-- The body of a response. -/
inductive Body where
  | empty
  | json (value : Json)
  | text (value : String)

/-- The content type that a body is sent with. -/
def Body.contentType : Body → Option String
  | empty => none
  | json _ => some "application/json"
  | text _ => some "text/plain; charset=utf-8"

/-- A response. -/
structure Response where
  status : Nat
  body : Body
  location : Option String := none
  cacheControl : Option String := none
  /-- The `trace-id` header. -/
  traceId : Option String := none
  cookie : Option SetCookie := none

/-- Whether a header can hold a text: no control characters but the tab. -/
def isHeaderText (s : String) : Bool :=
  s.toList.all fun c => c == '\t' || (0x20 ≤ c.toNat && c.toNat != 0x7f)

namespace Response

/-- What takes the place of a response with a header that cannot be written. -/
def badHeader : Response :=
  { status := 500, body := .text "failed to parse header value" }

/-- A JSON answer. -/
def ok (value : Json) : Response :=
  { status := 200, body := .json value }

/-- Sends a browser elsewhere. -/
def redirect (location : String) : Response :=
  if isHeaderText location then { status := 302, body := .empty, location := some location }
  else badHeader

/-- There is nothing at this address. -/
def notFound : Response :=
  { status := 404, body := .empty }

/-- A form was refused. -/
def ofFormFault (fault : FormFault) : Response :=
  { status := fault.status, body := .text fault.message }

/-- A query was refused. -/
def ofQueryFault : FormFault → Response
  | .duplicate field =>
    { status := 400, body := .text ("Query deserialize error: duplicate field `" ++ field ++ "`") }
  | other => ofFormFault other

end Response

/-- The status of a code. -/
def status : ProblemCode → Nat
  | .invalidRequest => 400
  | .unauthorized => 401
  | .forbidden => 403
  | .notFound => 404
  | .conflict => 409
  | .serviceUnavailable => 503
  | .internalError => 500

/-- What callers are told of an internal error. -/
def redactedMessage : String := "Internal server error"

/-- A problem as callers may see it: of an internal error only that it happened. -/
def redact (problem : Problem) : Problem :=
  if problem.code = .internalError then
    ⟨.internalError, redactedMessage, problem.traceId, none, by decide⟩
  else problem

/-- The problem that a failure outside the handlers becomes, its cause left out. -/
def hostProblem (trace : Option TraceId) : Problem :=
  ⟨.internalError, redactedMessage, trace.map TraceId.render, none, by decide⟩

/-- The response to a problem. -/
def Response.ofProblem (problem : Problem) : Response :=
  if problem.traceId.all isHeaderText then
    { status := Http.status problem.code
      body := .json (redact problem).toJson
      traceId := problem.traceId }
  else badHeader

end Folio.Http
