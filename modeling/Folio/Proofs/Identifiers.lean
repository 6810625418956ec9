import Folio.Proofs.UuidForms

/-!
# Which texts are identifiers

A text is read as a UUID exactly when it is 32 hexadecimal digits in one of the four forms
(`Uuid.parse_iff`). User ids and trace ids are read from these texts and no others, and printed as
one of them (`identifier_texts`).
-/

namespace Folio

namespace Text

/-- A hexadecimal digit in either case. -/
def isHex (c : Char) : Bool :=
  c.isDigit || ('a' ≤ c && c ≤ 'f') || ('A' ≤ c && c ≤ 'F')

theorem isHex_iff {c : Char} : isHex c = true ↔
    (0x30 ≤ c.toNat ∧ c.toNat ≤ 0x39) ∨ (0x61 ≤ c.toNat ∧ c.toNat ≤ 0x66) ∨
      (0x41 ≤ c.toNat ∧ c.toNat ≤ 0x46) := by
  unfold isHex Char.isDigit
  simp only [Bool.or_eq_true, Bool.and_eq_true, decide_eq_true_eq, or_assoc]
  rfl

theorem isSome_hexValue (c : Char) : (hexValue? c).isSome = isHex c := by
  rw [Bool.eq_iff_iff, isHex_iff]
  unfold hexValue?
  grind

end Text

namespace Uuid

variable {digits text : List Char} {c : Char} {u : Uuid}

/-- The digits of a UUID: 32 of them, each in either case. -/
structure IsDigits (digits : List Char) : Prop where
  whole : digits.length = 32
  hex : ∀ c ∈ digits, Text.isHex c = true

theorem isSome_hexNat (acc : Nat) (digits : List Char) :
    (hexNat? acc digits).isSome = digits.all Text.isHex := by
  induction digits generalizing acc with
  | nil => rfl
  | cons c rest ih =>
    rw [hexNat?, List.all_cons, ← Text.isSome_hexValue]
    cases Text.hexValue? c with
    | none => rfl
    | some digit => exact ih _

theorem isDigits_iff : IsDigits digits ↔ ∃ u, ofDigits? digits = some u := by
  have number : (∃ n, hexNat? 0 digits = some n) ↔ ∀ c ∈ digits, Text.isHex c = true := by
    rw [← Option.isSome_iff_exists, isSome_hexNat, List.all_eq_true]
  unfold ofDigits?
  constructor
  · rintro ⟨whole, hex⟩
    obtain ⟨n, read⟩ := number.mpr hex
    exact ⟨_, by rw [if_pos whole, read, Option.map_some]⟩
  · rintro ⟨u, read⟩
    split at read
    · rename_i whole
      obtain ⟨n, value, _⟩ := Option.map_eq_some_iff.mp read
      exact ⟨whole, number.mp ⟨n, value⟩⟩
    · cases read

/-! ### Every form is read -/

/-- The four forms have different lengths, so none is taken for another. -/
theorem ofChars_of_form (whole : digits.length = 32) (form : Form digits text) :
    ofChars? text = ofDigits? digits := by
  have length := length_hyphenate whole
  have read := ofHyphenated_hyphenate whole
  unfold ofChars?
  cases form with
  | plain => rw [if_pos whole]
  | hyphenated => rw [if_neg (by omega), if_pos length, read]
  | braced =>
    have inner : ((hyphenate digits ++ ['\x7d']).take 36) = hyphenate digits := by
      rw [← length, List.take_left]
    have closes : ('\x7b' :: (hyphenate digits ++ ['\x7d'])).getLast? = some '\x7d' := by
      rw [← List.cons_append, List.getLast?_concat]
    rw [if_neg (by simp [length]), if_neg (by simp [length]),
      if_pos ⟨by simp [length], List.head?_cons, closes⟩, List.drop_one, List.tail_cons, inner,
      read]
  | @named scheme lower =>
    have nine : scheme.length = 9 := by
      have same := congrArg List.length lower
      rwa [List.length_map] at same
    have front : (scheme ++ hyphenate digits).take 9 = scheme := by rw [← nine, List.take_left]
    have back : (scheme ++ hyphenate digits).drop 9 = hyphenate digits := by
      rw [← nine, List.drop_left]
    rw [if_neg (by simp [nine, length]), if_neg (by simp [nine, length]),
      if_neg (by simp [nine, length]), if_pos (by simp [nine, length, front, lower]), back, read]

theorem ofChars_iff : ofChars? text = some u ↔ ∃ ds, Form ds text ∧ ofDigits? ds = some u := by
  constructor
  · exact ofChars_sound
  · rintro ⟨ds, form, read⟩
    rw [ofChars_of_form (ofDigits_sound read).1 form, read]

theorem exists_parse_iff (s : String) :
    (∃ u, parse? s = some u) ↔ ∃ digits, IsDigits digits ∧ Form digits s.toList := by
  unfold parse?
  simp only [ofChars_iff, isDigits_iff]
  constructor
  · rintro ⟨u, digits, form, read⟩
    exact ⟨digits, ⟨u, read⟩, form⟩
  · rintro ⟨digits, ⟨u, read⟩, form⟩
    exact ⟨u, digits, form, read⟩

theorem render_injective : Function.Injective render := by
  intro a b same
  have read := parse_render a
  rw [same, parse_render] at read
  cases read
  rfl

/-- The value that is read is the one printed with the digits of the text. -/
theorem parse_iff (s : String) (u : Uuid) :
    parse? s = some u ↔ ∃ digits, IsDigits digits ∧ Form digits s.toList ∧
      u.render = String.ofList (hyphenate (digits.map Char.toLower)) := by
  unfold parse?
  rw [ofChars_iff]
  constructor
  · rintro ⟨digits, form, read⟩
    exact ⟨digits, isDigits_iff.mpr ⟨u, read⟩, form,
      congrArg String.ofList (ofDigits_sound read).2⟩
  · rintro ⟨digits, isDigits, form, printed⟩
    obtain ⟨v, read⟩ := isDigits_iff.mp isDigits
    have same : v = u := render_injective <| by
      rw [printed]
      exact congrArg String.ofList (ofDigits_sound read).2
    exact ⟨digits, form, same ▸ read⟩

/-! ### No form has blanks -/

theorem not_blank_of_scheme (letter : c.toLower ∈ urn) : Text.isBlank c = false := by
  have lower : urn.all (fun d => Text.isBlank d = false) = true := by decide
  unfold Char.toLower at letter
  split at letter
  · rename_i upper
    obtain ⟨low, high⟩ := upper
    have least := UInt32.le_iff_toNat_le.mp low
    have most := UInt32.le_iff_toNat_le.mp high
    exact Text.not_blank_of_visible (Nat.le_trans (by decide) least)
      (Nat.le_trans most (by decide))
  · simpa using List.all_eq_true.mp lower c letter

theorem not_blank_of_form (isDigits : IsDigits digits) (form : Form digits text) :
    ∀ c ∈ text, Text.isBlank c = false := by
  have plain : ∀ c ∈ digits, Text.isBlank c = false := by
    intro c member
    have hex := Text.isHex_iff.mp (isDigits.hex c member)
    exact Text.not_blank_of_visible (by omega) (by omega)
  have hyphenated : ∀ c ∈ hyphenate digits, Text.isBlank c = false := by
    intro c member
    rcases mem_hyphenate member with rfl | digit
    · decide
    · exact plain c digit
  intro c member
  cases form with
  | plain => exact plain c member
  | hyphenated => exact hyphenated c member
  | braced =>
    simp only [List.mem_cons, List.mem_append, List.not_mem_nil, or_false] at member
    rcases member with rfl | inner | rfl
    · decide
    · exact hyphenated c inner
    · decide
  | named lower =>
    rcases List.mem_append.mp member with letter | later
    · exact not_blank_of_scheme (lower ▸ List.mem_map_of_mem letter)
    · exact hyphenated c later

theorem not_blank_of_parse {s : String} (read : parse? s = some u) :
    ∀ c ∈ s.toList, Text.isBlank c = false := by
  obtain ⟨digits, isDigits, form⟩ := (exists_parse_iff s).mp ⟨u, read⟩
  exact not_blank_of_form isDigits form

end Uuid

/-! ### Identifiers -/

theorem UserId.parse_of_some {s : String} {u : Uuid} (read : Uuid.parse? s = some u) :
    UserId.parse s = .ok ⟨u⟩ := by
  have some : s ≠ "" := by
    rintro rfl
    cases read
  have trimmed := Text.trim_of_no_blank (Uuid.not_blank_of_parse read)
  unfold UserId.parse
  rw [if_neg some, if_neg (fun different => different trimmed), read]

theorem UserId.parse_of_none {s : String} (some : s ≠ "") (none : Uuid.parse? s = none) :
    UserId.parse s = .error .invalidId := by
  unfold UserId.parse
  rw [if_neg some, none]
  split <;> rfl

theorem UserId.parse_iff (s : String) (u : Uuid) :
    UserId.parse s = .ok ⟨u⟩ ↔ Uuid.parse? s = some u := by
  constructor
  · exact UserId.uuid_of_parse
  · exact UserId.parse_of_some

theorem UserId.emptyId_iff (s : String) : UserId.parse s = .error .emptyId ↔ s = "" := by
  constructor
  · intro refused
    by_contra some
    cases read : Uuid.parse? s with
    | none => rw [UserId.parse_of_none some read] at refused; cases refused
    | some u => rw [UserId.parse_of_some read] at refused; cases refused
  · rintro rfl
    rfl

theorem UserId.invalidId_iff (s : String) :
    UserId.parse s = .error .invalidId ↔ s ≠ "" ∧ Uuid.parse? s = none := by
  constructor
  · intro refused
    constructor
    · rintro rfl
      cases refused
    · cases read : Uuid.parse? s with
      | none => rfl
      | some u => rw [UserId.parse_of_some read] at refused; cases refused
  · rintro ⟨some, none⟩
    exact UserId.parse_of_none some none

theorem TraceId.parse_iff (s : String) (u : Uuid) :
    TraceId.parse? s = some ⟨u⟩ ↔ Uuid.parse? s = some u := by
  unfold TraceId.parse?
  rw [Option.map_eq_some_iff]
  constructor
  · rintro ⟨v, read, same⟩
    cases same
    exact read
  · intro read
    exact ⟨u, read, rfl⟩

theorem UserId.render_injective : Function.Injective UserId.render := by
  intro a b same
  exact congrArg UserId.mk (Uuid.render_injective same)

theorem TraceId.render_injective : Function.Injective TraceId.render := by
  intro a b same
  exact congrArg TraceId.mk (Uuid.render_injective same)

/-- User ids and trace ids are read from the four forms of 32 digits and from nothing else, with the
same value, which is the one printed with these digits. An empty text is told apart from other texts
that are no user id. Every value is printed in lower case and read back from there. -/
theorem identifier_texts :
    (∀ s : String,
      (UserId.parse s = .error .emptyId ↔ s = "") ∧
      (UserId.parse s = .error .invalidId ↔ s ≠ "" ∧ TraceId.parse? s = none) ∧
      (∀ u, UserId.parse s = .ok ⟨u⟩ ↔ TraceId.parse? s = some ⟨u⟩) ∧
      ((∃ trace, TraceId.parse? s = some trace) ↔
        ∃ digits, Uuid.IsDigits digits ∧ Uuid.Form digits s.toList) ∧
      (∀ u, TraceId.parse? s = some ⟨u⟩ ↔
        ∃ digits, Uuid.IsDigits digits ∧ Uuid.Form digits s.toList ∧
          u.render = String.ofList (Uuid.hyphenate (digits.map Char.toLower))) ∧
      ∀ digits, Uuid.IsDigits digits → Uuid.Form digits s.toList →
        ∀ c ∈ s.toList, Text.isBlank c = false) ∧
    (∀ u : Uuid,
      (UserId.mk u).render = u.render ∧ (TraceId.mk u).render = u.render ∧
      u.render.length = 36 ∧ (∀ c ∈ u.render.toList, Text.isIdChar c = true) ∧
      UserId.parse u.render = .ok ⟨u⟩ ∧ TraceId.parse? u.render = some ⟨u⟩) ∧
    Function.Injective UserId.render ∧ Function.Injective TraceId.render := by
  refine ⟨fun s => ⟨UserId.emptyId_iff s, ?_, ?_, ?_, ?_, ?_⟩, fun u => ⟨rfl, rfl, ?_, ?_, ?_, ?_⟩,
    UserId.render_injective, TraceId.render_injective⟩
  · rw [UserId.invalidId_iff, TraceId.parse?, Option.map_eq_none_iff]
  · intro u
    rw [UserId.parse_iff, TraceId.parse_iff]
  · rw [← Uuid.exists_parse_iff]
    constructor
    · rintro ⟨⟨u⟩, read⟩
      exact ⟨u, (TraceId.parse_iff s u).mp read⟩
    · rintro ⟨u, read⟩
      exact ⟨⟨u⟩, (TraceId.parse_iff s u).mpr read⟩
  · intro u
    rw [TraceId.parse_iff, Uuid.parse_iff]
  · exact fun digits isDigits form => Uuid.not_blank_of_form isDigits form
  · rw [← String.length_toList, Uuid.toList_render, Uuid.length_renderChars]
  · intro c member
    rw [Uuid.toList_render] at member
    exact Uuid.renderChars_chars u c member
  · exact UserId.parse_render ⟨u⟩
  · exact (TraceId.parse_iff _ u).mpr (Uuid.parse_render u)

/-- The name of the scheme is read in capital letters too. -/
theorem capital_scheme_read :
    UserId.parse "URN:UUID:3fa85f64-5717-4562-b3fc-2c963f66afa6" =
        .ok ⟨⟨0x3fa85f6457174562b3fc2c963f66afa6⟩⟩ ∧
      TraceId.parse? "URN:UUID:3fa85f64-5717-4562-b3fc-2c963f66afa6" =
        some ⟨⟨0x3fa85f6457174562b3fc2c963f66afa6⟩⟩ ∧
      ¬∃ digits, Uuid.IsDigits digits ∧
        "URN:UUID:3fa85f64-5717-4562-b3fc-2c963f66afa6".toList ∈
          [digits, Uuid.hyphenate digits, Uuid.urn ++ Uuid.hyphenate digits,
            '\x7b' :: (Uuid.hyphenate digits ++ ['\x7d'])] := by
  have read : Uuid.parse? "URN:UUID:3fa85f64-5717-4562-b3fc-2c963f66afa6" =
      some ⟨0x3fa85f6457174562b3fc2c963f66afa6⟩ := by decide +kernel
  refine ⟨UserId.parse_of_some read, (TraceId.parse_iff _ _).mpr read, ?_⟩
  rintro ⟨digits, isDigits, member⟩
  have length := Uuid.length_hyphenate isDigits.whole
  have whole := isDigits.whole
  simp only [List.mem_cons, List.not_mem_nil, or_false] at member
  rcases member with plain | hyphenated | named | braced
  · have same := congrArg List.length plain
    rw [whole] at same
    cases same
  · have same := congrArg List.length hyphenated
    rw [length] at same
    cases same
  · cases named
  · cases braced

end Folio
