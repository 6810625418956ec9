import Folio.Text.Hex
import Folio.Text.Split
import Folio.Text.Utf8

/-!
# Percent-encoded text

`percentDecode` undoes `%` escapes, `formPairs` reads the fields of a query or a form.
-/

namespace Folio.Text

/-- Replaces each `%` with two hexadecimal digits by their byte, except for the bytes to keep
escaped; any other `%` stays. -/
def percentDecode (keep : UInt8 → Bool) : List UInt8 → List UInt8
  | [] => []
  | b :: rest =>
    if b != 0x25 then b :: percentDecode keep rest
    else
      match rest with
      | high :: low :: tail =>
        match hexByteValue? high, hexByteValue? low with
        | some h, some l =>
          let value := (16 * h + l).toUInt8
          if keep value then b :: percentDecode keep (high :: low :: tail)
          else value :: percentDecode keep tail
        | _, _ => b :: percentDecode keep (high :: low :: tail)
      | short => b :: percentDecode keep short

/-- Text with every escape undone. -/
def percentDecodeText (s : String) : String :=
  String.ofList (decodeLenient (percentDecode (fun _ => false) (utf8 s)))

/-- A field's name or value: `+` is a space, then escapes are undone. -/
def formDecode (bytes : List UInt8) : String :=
  String.ofList (decodeLenient
    (percentDecode (fun _ => false) (bytes.map fun b => if b == 0x2b then 0x20 else b)))

/-- The fields of a query or a form, in order: pieces between `&`, empty ones skipped, each cut at
its first `=`. -/
def formPairs (s : String) : List (String × String) :=
  ((split (· == 0x26) (utf8 s)).filter (!·.isEmpty)).map fun piece =>
    let (name, value) := splitFirst (· == 0x3d) piece
    (formDecode name, formDecode (value.getD []))

end Folio.Text
