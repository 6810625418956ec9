import Folio.Json.Decode

/-!
# Values of one kind

A reader for one kind of value accepts exactly the values of that kind.
-/

namespace Folio.Json

variable {value : Json}

theorem asString_eq_ok_iff {text : String} : value.asString = .ok text ↔ value = .str text := by
  cases value with
  | str other => simp [asString]
  | _ => simp [asString]

theorem asBool_eq_ok_iff {truth : Bool} : value.asBool = .ok truth ↔ value = .bool truth := by
  cases value with
  | bool other => simp [asBool]
  | _ => simp [asBool]

theorem toOption_eq_some_iff {α : Type} {read : Except DecodeError α} {a : α} :
    read.toOption = some a ↔ read = .ok a := by
  cases read with
  | ok b => simp [Except.toOption]
  | error e => simp [Except.toOption]

/-- A text that is parsed: the value has to be a text, and the parser has to accept it. -/
theorem parsed_eq_ok_iff {ε α : Type} {parse : String → Except ε α} {word : ε → DecodeError}
    {a : α} :
    (value.asString >>= fun text => (parse text).mapError word) = .ok a ↔
      ∃ text, value = .str text ∧ parse text = .ok a := by
  cases value with
  | str text =>
    show (parse text).mapError word = .ok a ↔ _
    cases accepted : parse text with
    | ok b =>
      show Except.ok b = .ok a ↔ _
      simp [accepted]
    | error e =>
      show Except.error (word e) = .ok a ↔ _
      simp [accepted]
  | _ => simp [asString, bind, Except.bind]

end Folio.Json
