import Folio.Json
import Folio.Text.Blank
import Folio.Text.Digits
import Folio.Text.Percent

/-!
# Requests

A request as it reaches the application: its target split into path and query, and the content of
the session that its cookie holds.
-/

namespace Folio.Http

/-- What a session holds, by key. -/
abbrev SessionContent := List (String × Json)

/-- A request. -/
structure Request where
  method : String
  path : String
  query : String
  contentType : Option String
  body : String
  /-- The content of the session cookie; nothing when there is no cookie that can be read. -/
  session : Option SessionContent

namespace Request

/-- The path and the query of a request target; a fragment is dropped. -/
def splitTarget (target : String) : String × String :=
  let (target, _) := Text.splitFirst (· == '#') target.toList
  let (path, query) := Text.splitFirst (· == '?') target
  (String.ofList path, String.ofList (query.getD []))

/-- Bytes that stay escaped while the path is matched: `%`, `/` and `+`. -/
def staysEscaped (b : UInt8) : Bool :=
  b == 0x25 || b == 0x2f || b == 0x2b

/-- The path that routes are matched against. -/
def routePath (request : Request) : String :=
  String.ofList
    (Text.decodeLenient (Text.percentDecode staysEscaped (Text.utf8 request.path)))

end Request

/-! ### Forms -/

/-- Why the fields of a form or a query cannot be read. -/
inductive FormFault where
  /-- The content type is not that of a form. -/
  | contentType
  /-- The body is larger than a form may be. -/
  | tooLarge (size : Nat)
  /-- A field is there twice. -/
  | duplicate (field : String)
  deriving DecidableEq, Repr

/-- The largest form, in bytes. -/
def formLimit : Nat := 16384

/-- The status that a form is refused with. -/
def FormFault.status : FormFault → Nat
  | contentType => 415
  | tooLarge _ => 413
  | duplicate _ => 400

/-- The text that a form is refused with. -/
def FormFault.message : FormFault → String
  | contentType => "Content type error."
  | tooLarge size =>
    "URL encoded payload is larger (" ++ toString size ++ " bytes) than allowed (limit: "
      ++ toString formLimit ++ " bytes)."
  | duplicate field => "Parse error: duplicate field `" ++ field ++ "`."

/-- The first known field that is there twice, given those seen already. -/
def duplicate? (known : List String) : List String → List (String × String) → Option String
  | _, [] => none
  | seen, (name, _) :: rest =>
    if known.contains name then
      if seen.contains name then some name else duplicate? known (name :: seen) rest
    else duplicate? known seen rest

/-- Characters that may stand in the words of a content type. -/
def isTokenChar (c : Char) : Bool :=
  c.isAlphanum || "!#$%&'*+-.^_`|~".toList.contains c

/-- Whether a parameter of a content type is well formed: a word, `=` and a word or a quoted
text. -/
def isParameter (cs : List Char) : Bool :=
  let (name, value) := Text.splitFirst (· == '=') cs
  !name.isEmpty && name.all isTokenChar &&
    match value with
    | none => false
    | some ('"' :: quoted) => quoted.getLast? == some '"'
    | some word => !word.isEmpty && word.all isTokenChar

/-- Labels under which the encoding of a form may be given. -/
def encodingLabels : List String :=
  ["utf-8", "utf8", "unicode-1-1-utf-8", "unicode11utf8", "unicode20utf8", "x-unicode20utf8",
   "ascii", "us-ascii", "ansi_x3.4-1968", "iso-8859-1", "iso8859-1", "iso_8859-1", "latin1", "l1",
   "windows-1252", "cp1252", "x-cp1252"]

/-- The value of a parameter with a name in either case. -/
def parameter? (name : String) (parameters : List (List Char)) : Option String :=
  parameters.findSome? fun parameter =>
    let (key, value) := Text.splitFirst (· == '=') parameter
    if String.ofList (key.map Char.toLower) = name then
      value.map fun value => String.ofList (value.filter (· != '"'))
    else none

/-- The parameters of a content type without blanks around them; nothing has to follow the last
semicolon. -/
def contentParameters (pieces : List (List Char)) : List (List Char) :=
  let parameters := pieces.map Text.trimChars
  if parameters.getLast? = some [] then parameters.dropLast else parameters

/-- Whether a content type is that of a form, with well-formed parameters and an encoding that is
known. -/
def isFormType (contentType : Option String) : Bool :=
  match Text.split (· == ';') (contentType.getD "").toList with
  | [] => false
  | essence :: parameters =>
    let parameters := contentParameters parameters
    Text.asciiLower (String.ofList (Text.trimChars essence)) = "application/x-www-form-urlencoded"
      && parameters.all isParameter
      && (parameter? "charset" parameters).all fun label =>
        encodingLabels.contains (Text.asciiLower label)

/-- Reads a form in which only the known fields count. -/
def Request.form (request : Request) (known : List String) :
    Except FormFault (List (String × String)) :=
  if !isFormType request.contentType then .error .contentType
  else if request.body.utf8ByteSize > formLimit then .error (.tooLarge request.body.utf8ByteSize)
  else
    let pairs := Text.formPairs request.body
    match duplicate? known [] pairs with
    | some field => .error (.duplicate field)
    | none => .ok pairs

/-- The value of a field; empty when it is absent. -/
def field (pairs : List (String × String)) (name : String) : String :=
  (pairs.lookup name).getD ""

/-- Reads the `next` parameter of the query; empty when it is absent. -/
def Request.next (request : Request) : Except FormFault String :=
  let pairs := Text.formPairs request.query
  match duplicate? ["next"] [] pairs with
  | some name => .error (.duplicate name)
  | none => .ok (field pairs "next")

end Folio.Http
