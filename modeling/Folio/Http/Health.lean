import Folio.Http.Response

/-!
# Health checks
-/

namespace Folio.Http

/-- Whether the service takes requests, and whether it is running properly. -/
structure Health where
  ready : Bool
  alive : Bool
  deriving DecidableEq, Repr

namespace Health

/-- A service that has just started. -/
def initial : Health := ⟨false, true⟩

/-- The service takes requests from now on. -/
def markReady (health : Health) : Health :=
  { health with ready := true }

/-- The service is going down. -/
def markUnhealthy (health : Health) : Health :=
  { health with alive := false }

end Health

/-- The answer to a health check; nobody may keep it. -/
def Response.health (healthy : Bool) : Response :=
  { status := if healthy then 200 else 503, body := .empty, cacheControl := some "no-store" }

end Folio.Http
