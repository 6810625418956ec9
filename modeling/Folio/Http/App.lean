import Folio.Http.Accounts
import Folio.Http.Health
import Folio.Http.Profiles
import Folio.OpenApi

/-!
# The application

`App.respond` is the whole application as a program: it finds the route of a request, runs its
handler, and adds the session cookie and the trace id to the response.
-/

namespace Folio.Http

/-- What a request asks for. -/
inductive Route where
  | registrationForm
  | register
  | loginForm
  | login
  | logout
  | profile (segment : String)
  | follow (segment : String)
  | unfollow (segment : String)
  | ready
  | live
  | apiDocument
  deriving DecidableEq, Repr

namespace Route

/-- The segment of a profile path: everything after `/profiles/`, not empty and without another
slash. Its escapes are undone. -/
def profileSegment? (path : String) : Option String :=
  let start := "/profiles/".toList
  let cs := path.toList
  let segment := cs.drop start.length
  if cs.take start.length = start ∧ !segment.isEmpty ∧ !segment.contains '/' then
    some (Text.percentDecodeText (String.ofList segment))
  else none

/-- The route of a method and a path. -/
def find? (method path : String) : Option Route :=
  match method, path with
  | "GET", "/accounts/register" => some registrationForm
  | "POST", "/accounts/register" => some register
  | "GET", "/accounts/login" => some loginForm
  | "POST", "/accounts/login" => some login
  | "GET", "/accounts/logout" => some logout
  | "GET", "/health/ready" => some ready
  | "GET", "/health/live" => some live
  | "GET", "/api-docs/openapi.json" => some apiDocument
  | "GET", path => (profileSegment? path).map profile
  | "POST", path => (profileSegment? path).map follow
  | "DELETE", path => (profileSegment? path).map unfollow
  | _, _ => none

end Route

/-- What a request is answered with besides the stores: the ids made for it and the state of the
server. -/
structure Context where
  trace : TraceId
  freshId : UserId
  health : Health
  policy : CookiePolicy

namespace App

/-- Runs the handler of a route. -/
def handle (context : Context) (request : Request) (route : Route) : Handler Response :=
  let trace := some context.trace
  match route with
  | .registrationForm => pure (.ok registrationForm)
  | .register =>
    match request.form registrationFields with
    | .error fault => pure (.ofFormFault fault)
    | .ok form => Handler.register trace context.freshId form
  | .loginForm =>
    match request.next with
    | .error fault => pure (.ofQueryFault fault)
    | .ok next => pure (.ok (loginForm next))
  | .login =>
    match request.next with
    | .error fault => pure (.ofQueryFault fault)
    | .ok next =>
      match request.form loginFields with
      | .error fault => pure (.ofFormFault fault)
      | .ok form => Handler.login trace next form
  | .logout => Handler.logout trace
  | .profile segment => Handler.profile trace segment
  | .follow segment => Handler.follow trace segment
  | .unfollow segment => Handler.unfollow trace segment
  | .ready => pure (.health context.health.ready)
  | .live => pure (.health context.health.alive)
  | .apiDocument => pure (.ok OpenApi.document)

/-- A response with its session cookie and its trace id. -/
def finish (context : Context) (session : Session) (response : Response) : Response :=
  { response with
    cookie := session.cookie?.map fun change => ⟨context.policy, change⟩
    traceId := some context.trace.render }

/-- Answers a request. -/
def respond (context : Context) (request : Request) : Program Response := do
  match Route.find? request.method request.routePath with
  | none => pure (finish context (.start request.session) .notFound)
  | some route =>
    let (result, session) ← (handle context request route).run.run (.start request.session)
    match result with
    | .ok response => pure (finish context session response)
    | .error problem => pure (finish context session (.ofProblem problem))

end App

end Folio.Http
