import Folio.Uuid

/-!
# Trace ids

A trace id marks everything that happens on behalf of one request.
-/

namespace Folio

/-- What correlates a request with its answer and its events. -/
structure TraceId where
  uuid : Uuid
  deriving DecidableEq, Repr

namespace TraceId

/-- Reads a trace id from a UUID text. -/
def parse? (s : String) : Option TraceId :=
  (Uuid.parse? s).map TraceId.mk

/-- The printed form of a trace id. -/
def render (trace : TraceId) : String :=
  trace.uuid.render

end TraceId

end Folio
