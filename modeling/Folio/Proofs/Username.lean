import Folio.Proofs.Text.Blank
import Folio.User

/-!
# Usernames as texts

A username holds no blank, so reading its text gives it back, also where blanks would be refused.
-/

namespace Folio

namespace Text

theorem isWord_not_blank {c : Char} (word : isWord c = true) : isBlank c = false := by
  -- The ranges of every class of word characters keep apart from those of `White_Space`.
  have alphabetic : ∀ r ∈ alphabeticRanges, ∀ q ∈ blankRanges, r.2 < q.1 ∨ q.2 < r.1 := by
    decide +kernel
  have mark : ∀ r ∈ markRanges, ∀ q ∈ blankRanges, r.2 < q.1 ∨ q.2 < r.1 := by decide +kernel
  have decimal : ∀ r ∈ decimalRanges, ∀ q ∈ blankRanges, r.2 < q.1 ∨ q.2 < r.1 := by
    decide +kernel
  have connector : ∀ r ∈ connectorRanges, ∀ q ∈ blankRanges, r.2 < q.1 ∨ q.2 < r.1 := by
    decide +kernel
  unfold isWord at word
  simp only [Bool.or_eq_true] at word
  rcases word with (((word | word) | word) | word) | word
  · exact inRanges_disjoint alphabetic word
  · exact inRanges_disjoint mark word
  · exact inRanges_disjoint decimal word
  · exact inRanges_disjoint connector word
  · unfold isJoiner at word
    simp only [Bool.or_eq_true, beq_iff_eq] at word
    unfold isBlank
    rcases word with code | code
    · rw [code]; decide
    · rw [code]; decide

end Text

theorem isUsernameChar_not_blank {c : Char} (allowed : isUsernameChar c = true) :
    Text.isBlank c = false := by
  unfold isUsernameChar at allowed
  simp only [Bool.or_eq_true, beq_iff_eq] at allowed
  rcases allowed with (((word | rfl) | rfl) | rfl) | rfl
  · exact Text.isWord_not_blank word
  · decide
  · decide
  · decide
  · decide

namespace Username

theorem trim_text (name : Username) : Text.trim name.text = name.text := by
  apply Text.trim_of_no_blank
  intro c member
  exact isUsernameChar_not_blank (List.all_eq_true.mp name.allowed c member)

theorem parse_text (name : Username) : parse name.text = .ok name := by
  unfold parse
  simp only [trim_text, name.nonempty, dif_neg (Nat.not_lt.mpr name.short), name.allowed]
  rfl

/-- A username that was read is the text without the blanks around it. -/
theorem text_of_parse {raw : String} {name : Username} (read : parse raw = .ok name) :
    name.text = Text.trim raw := by
  unfold parse at read
  dsimp only at read
  split at read
  · cases read
  · split at read
    · cases read
    · split at read
      · cases read
        rfl
      · cases read

/-- A text is refused that is blank, too long, or has a character that may not stand there. -/
theorem parse_error_iff {raw : String} :
    (∃ e, parse raw = .error e) ↔
      Text.trim raw = "" ∨ usernameLimit < (Text.trim raw).length ∨
        ∃ c ∈ (Text.trim raw).toList, isUsernameChar c = false := by
  unfold parse
  dsimp only
  split
  · rename_i empty
    simp [empty]
  · rename_i filled
    split
    · rename_i long
      simp [long]
    · rename_i short
      simp only [filled, short, false_or]
      split
      · rename_i allowed
        simpa using allowed
      · rename_i forbidden
        simpa using forbidden

/-- Reading sees nothing of the blanks around a text. -/
theorem parse_trim (raw : String) : parse (Text.trim raw) = parse raw := by
  unfold parse
  simp only [Text.trim_idem]

theorem verbatim_text (name : Username) : verbatim? name.text = some name := by
  unfold verbatim?
  rw [parse_text]
  simp

theorem verbatim_eq_some {raw : String} {name : Username} :
    verbatim? raw = some name ↔ name.text = raw := by
  constructor
  · intro read
    unfold verbatim? at read
    split at read
    · split at read
      · rename_i same
        cases read
        exact same
      · cases read
    · cases read
  · intro same
    rw [← same]
    exact verbatim_text name

theorem ext_text {a b : Username} (same : a.text = b.text) : a = b := by
  cases a
  cases b
  cases same
  rfl

end Username

end Folio
