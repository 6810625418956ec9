import Folio.Json.Decode
import Folio.Problem

/-!
# Problems as JSON

`Problem.toJson` leaves out what is absent; `Problem.ofJson` reads it back, takes the trace id from
the value alone, and looks past members it does not know.
-/

namespace Folio

/-- Reads a code: its name, or an object with the name as its only member and null under it. -/
def ProblemCode.ofJson : Json → Except Json.DecodeError ProblemCode
  | .str name => named name
  | .obj [(name, value)] => do
    let code ← named name
    match value with
    | .null => pure code
    | other => .error (.invalidType other "unit")
  | .obj _ => .error (.invalidValue "map" "map with a single key")
  | other => .error (.invalidType other "string or map")
where
  /-- The code with a name. -/
  named (name : String) : Except Json.DecodeError ProblemCode :=
    match ofName? name with
    | some code => .ok code
    | none => .error (.unknownVariant name (all.map ProblemCode.name))

namespace Problem

/-- A problem as JSON. -/
def toJson (problem : Problem) : Json :=
  .obj <|
    [("code", .str problem.code.name)]
      ++ (problem.details.map fun details => ("details", details)).toList
      ++ [("message", .str problem.message)]
      ++ (problem.traceId.map fun id => ("traceId", .str id)).toList

/-- What has been read of a problem so far; a member that was null is present with nothing. -/
structure Draft where
  code : Option ProblemCode := none
  message : Option String := none
  traceId : Option (Option String) := none
  details : Option (Option Json) := none

namespace Draft

/-- Details, or nothing when null. -/
def detailsOf : Json → Option Json
  | .null => none
  | other => some other

/-- Checks what has been read: the trace id first, then the message. The problem is raised while
`ambient` is the ambient trace id, and keeps the one that was read instead. -/
def finish (ambient : Option TraceId) (draft : Draft) : Except Json.DecodeError Problem := do
  let some code := draft.code | .error (.missingField "code")
  let some message := draft.message | .error (.missingField "message")
  let traceId := draft.traceId.join
  if traceId.any Text.isBlankText then .error (.refused ProblemError.emptyTraceId.message)
  else
    match Problem.new ambient code message with
    | .ok problem => pure { problem with traceId, details := draft.details.join }
    | .error e => .error (.refused e.message)

/-- Reads members one after the other. -/
def readMembers (draft : Draft) : List (String × Json) → Except Json.DecodeError Draft
  | [] => .ok draft
  | (name, value) :: rest =>
    if name = "code" then
      if draft.code.isSome then .error (.duplicateField "code")
      else do readMembers { draft with code := some (← ProblemCode.ofJson value) } rest
    else if name = "message" then
      if draft.message.isSome then .error (.duplicateField "message")
      else do readMembers { draft with message := some (← value.asString) } rest
    else if name = "traceId" ∨ name = "trace_id" then
      if draft.traceId.isSome then .error (.duplicateField "traceId")
      else do readMembers { draft with traceId := some (← value.asOptionalString) } rest
    else if name = "details" then
      if draft.details.isSome then .error (.duplicateField "details")
      else readMembers { draft with details := some (detailsOf value) } rest
    else readMembers draft rest

/-- Reads the items of an array; the last two may be absent. -/
def readItems (items : List Json) : Except Json.DecodeError Draft :=
  match items with
  | [] => .error (.invalidLength 0 "struct ErrorDto with 4 elements")
  | code :: rest => do
    let code ← ProblemCode.ofJson code
    match rest with
    | [] => .error (.invalidLength 1 "struct ErrorDto with 4 elements")
    | message :: rest => do
      let message ← message.asString
      let traceId ← (rest.head?.map Json.asOptionalString).getD (.ok none)
      let details := (rest.drop 1).head?.bind detailsOf
      if rest.length ≤ 2 then pure ⟨some code, some message, some traceId, some details⟩
      else .error (.invalidLength items.length "fewer elements in array")

end Draft

/-- Reads a problem from an object or an array while `ambient` is the ambient trace id. -/
def ofJsonWithin (ambient : Option TraceId) : Json → Except Json.DecodeError Problem
  | .obj members => do (← Draft.readMembers {} members).finish ambient
  | .arr items => do (← Draft.readItems items).finish ambient
  | other => .error (.invalidType other "struct ErrorDto")

/-- Reads a problem outside of any trace. -/
def ofJson (value : Json) : Except Json.DecodeError Problem :=
  ofJsonWithin none value

end Problem

end Folio
