import Folio.Text.Ranges

/-!
# Blank characters

The Unicode property `White_Space`, and texts without blank characters at their ends.
-/

namespace Folio.Text

/-- Ranges of the property `White_Space`. -/
def blankRanges : List (Nat × Nat) :=
  [(0x9, 0xd), (0x20, 0x20), (0x85, 0x85), (0xa0, 0xa0), (0x1680, 0x1680), (0x2000, 0x200a),
   (0x2028, 0x2029), (0x202f, 0x202f), (0x205f, 0x205f), (0x3000, 0x3000)]

/-- Whether a character has the property `White_Space`. -/
def isBlank (c : Char) : Bool :=
  inRanges blankRanges c.toNat

/-- Characters without the blank ones at the end. -/
def dropBlankEnd (cs : List Char) : List Char :=
  (cs.reverse.dropWhile isBlank).reverse

/-- Characters without the blank ones at either end. -/
def trimChars (cs : List Char) : List Char :=
  dropBlankEnd (cs.dropWhile isBlank)

/-- Text without the blank characters at either end. -/
def trim (s : String) : String :=
  String.ofList (trimChars s.toList)

/-- Whether a text has nothing but blank characters. -/
def isBlankText (s : String) : Bool :=
  s.toList.all isBlank

/-- A text that starts with something visible is not blank. -/
theorem isBlankText_append {s t : String} (visible : isBlankText s = false) :
    isBlankText (s ++ t) = false := by
  unfold isBlankText at visible ⊢
  rw [String.toList_append, List.all_append, visible, Bool.false_and]

end Folio.Text
