import Folio.Text.Digits
import Folio.Text.Split

/-!
# JSON values

Numbers are integers or 64-bit floating point numbers, the latter kept by their bit pattern.
Objects list their members; `Json.object` puts them in ascending order of their names.
-/

namespace Folio

/-- A JSON value. -/
inductive Json where
  | null
  | bool (value : Bool)
  | int (value : Int)
  | float (bits : UInt64)
  | str (value : String)
  | arr (items : List Json)
  | obj (members : List (String × Json))
  deriving Inhabited

namespace Json

/-- Puts a member in its place by name; a member of the same name is replaced. -/
def insertMember (name : String) (value : Json) : List (String × Json) → List (String × Json)
  | [] => [(name, value)]
  | (n, v) :: rest =>
    if name < n then (name, value) :: (n, v) :: rest
    else if name == n then (name, value) :: rest
    else (n, v) :: insertMember name value rest

/-- The object with the given members; of two with one name the later counts. -/
def object (members : List (String × Json)) : Json :=
  .obj (members.foldl (fun sorted member => insertMember member.1 member.2 sorted) [])

/-- The first member with a name. -/
def member? (name : String) : Json → Option Json
  | .obj members => members.lookup name
  | _ => none

/-- The value of the only member with a name; there is none when the name is repeated. -/
def only? (name : String) (members : List (String × Json)) : Option Json :=
  match members.filter fun member => member.1 == name with
  | [member] => some member.2
  | _ => none

/-- An optional value, null when absent. -/
def ofOption {α : Type} (encode : α → Json) : Option α → Json
  | none => .null
  | some a => encode a

/-- An array of texts. -/
def strs (texts : List String) : Json :=
  .arr (texts.map .str)

/-- Follows the parts of a JSON pointer; an index has no sign and no leading zero. -/
def follow? : List String → Json → Option Json
  | [], value => some value
  | part :: parts, .obj members => (members.lookup part).bind (follow? parts)
  | part :: parts, .arr items =>
    match Text.decimal? part.toList with
    | some index =>
      if part == toString index then items[index]?.bind (follow? parts) else none
    | none => none
  | _ :: _, _ => none

/-- A part of a JSON pointer with its escapes undone. -/
def unescapePart : List Char → List Char
  | '~' :: '1' :: rest => '/' :: unescapePart rest
  | '~' :: '0' :: rest => '~' :: unescapePart rest
  | c :: rest => c :: unescapePart rest
  | [] => []

/-- The value at a JSON pointer: empty, or parts that each follow a `/`. -/
def pointer? (pointer : String) (value : Json) : Option Json :=
  match Text.split (· == '/') pointer.toList with
  | [] :: parts => follow? (parts.map fun part => String.ofList (unescapePart part)) value
  | _ => none

end Json

end Folio
