import Folio.Text.Ranges
import Folio.Text.Word.Alphabetic
import Folio.Text.Word.Digit
import Folio.Text.Word.Mark

/-!
# Word characters

A word character is alphabetic, a mark, a decimal digit, a connector or a joiner.
-/

namespace Folio.Text

/-- Whether a character has the property `Alphabetic`. -/
def isAlphabetic (c : Char) : Bool :=
  inRanges alphabeticRanges c.toNat

/-- Whether a character is of the general category Mark. -/
def isMark (c : Char) : Bool :=
  inRanges markRanges c.toNat

/-- Whether a character is of the general category Decimal_Number. -/
def isDecimal (c : Char) : Bool :=
  inRanges decimalRanges c.toNat

/-- Ranges of the general category Connector_Punctuation. -/
def connectorRanges : List (Nat × Nat) :=
  [(0x5f, 0x5f), (0x203f, 0x2040), (0x2054, 0x2054), (0xfe33, 0xfe34), (0xfe4d, 0xfe4f),
   (0xff3f, 0xff3f)]

/-- Whether a character is of the general category Connector_Punctuation. -/
def isConnector (c : Char) : Bool :=
  inRanges connectorRanges c.toNat

/-- Whether a character has the property `Join_Control`. -/
def isJoiner (c : Char) : Bool :=
  c.toNat == 0x200c || c.toNat == 0x200d

/-- Whether a character can be part of a word. -/
def isWord (c : Char) : Bool :=
  isAlphabetic c || isMark c || isDecimal c || isConnector c || isJoiner c

end Folio.Text
