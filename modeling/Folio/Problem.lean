import Folio.Json
import Folio.Text.Blank
import Folio.Trace

/-!
# Problems

A problem is what a caller is told when a request cannot be carried out: a stable code, a message
that is not blank, and optionally a trace id and details.
-/

namespace Folio

/-- The category of a problem. -/
inductive ProblemCode where
  | invalidRequest
  | unauthorized
  | forbidden
  | notFound
  | conflict
  | serviceUnavailable
  | internalError
  deriving DecidableEq, Repr

namespace ProblemCode

/-- All codes, in the order in which they are listed to callers. -/
def all : List ProblemCode :=
  [invalidRequest, unauthorized, forbidden, notFound, conflict, serviceUnavailable, internalError]

/-- The name of a code on the wire. -/
def name : ProblemCode → String
  | invalidRequest => "invalid_request"
  | unauthorized => "unauthorized"
  | forbidden => "forbidden"
  | notFound => "not_found"
  | conflict => "conflict"
  | serviceUnavailable => "service_unavailable"
  | internalError => "internal_error"

/-- The code with a name. -/
def ofName? (s : String) : Option ProblemCode :=
  all.find? fun code => code.name = s

end ProblemCode

/-- Why a problem cannot be built. -/
inductive ProblemError where
  | emptyMessage
  | emptyTraceId
  deriving DecidableEq, Repr

/-- The wording of an error. -/
def ProblemError.message : ProblemError → String
  | emptyMessage => "error message must not be empty"
  | emptyTraceId => "trace identifier must not be empty"

/-- What went wrong, as a caller is told. -/
structure Problem where
  code : ProblemCode
  message : String
  traceId : Option String
  details : Option Json
  message_visible : Text.isBlankText message = false

namespace Problem

/-- A problem raised while `trace` is the ambient trace id. -/
def new (trace : Option TraceId) (code : ProblemCode) (message : String) :
    Except ProblemError Problem :=
  if visible : Text.isBlankText message = false then
    .ok ⟨code, message, trace.map TraceId.render, none, visible⟩
  else .error .emptyMessage

/-- The same problem with details. -/
def withDetails (problem : Problem) (details : Json) : Problem :=
  { problem with details := some details }

/-- The same problem with another trace id. -/
def withTraceId (problem : Problem) (traceId : String) : Problem :=
  { problem with traceId := some traceId }

end Problem

end Folio
