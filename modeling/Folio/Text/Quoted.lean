import Folio.Text.Hex
import Folio.Text.Ranges
import Folio.Text.Quoted.Extender
import Folio.Text.Quoted.Unprintable

/-!
# Quoted text

`quoted` puts a text between double quotes with everything that would not show escaped.
-/

namespace Folio.Text

/-- A character inside double quotes. -/
def quotedChar (c : Char) : String :=
  if c.toNat == 0 then "\\0"
  else if c == '\t' then "\\t"
  else if c == '\r' then "\\r"
  else if c == '\n' then "\\n"
  else if c == '"' then "\\\""
  else if c == '\\' then "\\\\"
  else if inRanges extenderRanges c.toNat || inRanges unprintableRanges c.toNat then
    "\\u\x7b" ++ hexText c.toNat ++ "\x7d"
  else c.toString

/-- A text between double quotes, with escapes. -/
def quoted (s : String) : String :=
  "\"" ++ String.join (s.toList.map quotedChar) ++ "\""

end Folio.Text
