import Folio.Proofs.Text.Blank
import Folio.Trace
import Folio.User
import Mathlib.Tactic.Ring

/-!
# Printed identifiers

A UUID is printed with 32 lower-case digits and four hyphens and read back from that text, as an
identifier of any kind.
-/

namespace Folio

namespace Text

theorem hexValue_hexDigit {n : Nat} (small : n < 16) : hexValue? (hexDigit n) = some n := by
  have all : ∀ n < 16, hexValue? (hexDigit n) = some n := by decide
  exact all n small

/-- Lower-case digits and the hyphen: the characters of a printed identifier. -/
def isIdChar (c : Char) : Bool :=
  c.isDigit || ('a' ≤ c && c ≤ 'f') || c == '-'

theorem isIdChar_hexDigit {n : Nat} (small : n < 16) : isIdChar (hexDigit n) = true := by
  have all : ∀ n < 16, isIdChar (hexDigit n) = true := by decide
  exact all n small

theorem isIdChar_bounds {c : Char} (id : isIdChar c = true) :
    0x2d ≤ c.toNat ∧ c.toNat ≤ 0x66 := by
  unfold isIdChar Char.isDigit at id
  simp only [Bool.or_eq_true, Bool.and_eq_true, decide_eq_true_eq, beq_iff_eq] at id
  rcases id with (⟨low, high⟩ | ⟨low, high⟩) | rfl
  · exact ⟨Nat.le_trans (by decide) low, Nat.le_trans high (by decide)⟩
  · exact ⟨Nat.le_trans (by decide) low, Nat.le_trans high (by decide)⟩
  · decide

theorem isIdChar_not_blank {c : Char} (id : isIdChar c = true) : isBlank c = false := by
  obtain ⟨low, high⟩ := isIdChar_bounds id
  exact not_blank_of_visible (by omega) (by omega)

end Text

namespace Uuid

theorem length_fixedHex (width n : Nat) : (fixedHex width n).length = width := by
  induction width with
  | zero => rfl
  | succ width ih => rw [fixedHex, List.length_cons, ih]

theorem fixedHex_chars {width n : Nat} {c : Char} (member : c ∈ fixedHex width n) :
    Text.isIdChar c = true := by
  induction width with
  | zero => simp [fixedHex] at member
  | succ width ih =>
    rw [fixedHex, List.mem_cons] at member
    rcases member with rfl | later
    · exact Text.isIdChar_hexDigit (Nat.mod_lt _ (by decide))
    · exact ih later

/-- Reading fixed digits appends them to the number read before. -/
theorem hexNat_fixedHex (width n acc : Nat) :
    hexNat? acc (fixedHex width n) = some (acc * 16 ^ width + n % 16 ^ width) := by
  induction width generalizing acc with
  | zero => simp [fixedHex, hexNat?, Nat.mod_one]
  | succ width ih =>
    rw [fixedHex, hexNat?, Text.hexValue_hexDigit (Nat.mod_lt _ (by decide))]
    dsimp only
    rw [ih]
    congr 1
    have split : n % 16 ^ (width + 1) = n % 16 ^ width + 16 ^ width * (n / 16 ^ width % 16) := by
      rw [Nat.pow_succ, Nat.mod_mul]
    rw [split]
    show (16 * acc + n / 16 ^ width % 16) * 16 ^ width + n % 16 ^ width = _
    ring

theorem length_hyphenate {digits : List Char} (all : digits.length = 32) :
    (hyphenate digits).length = 36 := by
  unfold hyphenate
  simp [all]

theorem mem_hyphenate {digits : List Char} {c : Char} (member : c ∈ hyphenate digits) :
    c = '-' ∨ c ∈ digits := by
  unfold hyphenate at member
  simp only [List.mem_append, List.mem_cons] at member
  rcases member with
    (((first | hyphen | second) | hyphen | third) | hyphen | fourth) | hyphen | rest
  · exact .inr (List.mem_of_mem_take first)
  · exact .inl hyphen
  · exact .inr (List.mem_of_mem_drop (List.mem_of_mem_take second))
  · exact .inl hyphen
  · exact .inr (List.mem_of_mem_drop (List.mem_of_mem_take third))
  · exact .inl hyphen
  · exact .inr (List.mem_of_mem_drop (List.mem_of_mem_take fourth))
  · exact .inl hyphen
  · exact .inr (List.mem_of_mem_drop rest)

theorem hyphenate_chars {digits : List Char} (all : ∀ c ∈ digits, Text.isIdChar c = true)
    {c : Char} (member : c ∈ hyphenate digits) : Text.isIdChar c = true := by
  rcases mem_hyphenate member with rfl | digit
  · decide
  · exact all c digit

/-- Digits as the five groups that hyphens keep apart. -/
theorem exists_groups {digits : List Char} (all : digits.length = 32) :
    ∃ g1 g2 g3 g4 g5 : List Char, digits = g1 ++ (g2 ++ (g3 ++ (g4 ++ g5))) ∧
      g1.length = 8 ∧ g2.length = 4 ∧ g3.length = 4 ∧ g4.length = 4 ∧ g5.length = 12 := by
  refine ⟨digits.take 8, (digits.drop 8).take 4, (digits.drop 12).take 4,
    (digits.drop 16).take 4, digits.drop 20, ?_, ?_, ?_, ?_, ?_, ?_⟩
  · have join : ∀ n, (digits.drop n).take 4 ++ digits.drop (n + 4) = digits.drop n := by
      intro n
      rw [← List.drop_drop, List.take_append_drop]
    rw [join 16, join 12, join 8, List.take_append_drop]
  all_goals simp [all]

theorem hyphenate_groups {g1 g2 g3 g4 g5 : List Char} (l1 : g1.length = 8) (l2 : g2.length = 4)
    (l3 : g3.length = 4) (l4 : g4.length = 4) :
    hyphenate (g1 ++ (g2 ++ (g3 ++ (g4 ++ g5)))) =
      g1 ++ '-' :: (g2 ++ '-' :: (g3 ++ '-' :: (g4 ++ '-' :: g5))) := by
  unfold hyphenate
  simp (disch := omega) [List.drop_append, List.drop_of_length_le, l1, l2, l3]

/-- The hyphens are found where they were put, and the digits between them. -/
theorem ofHyphenated_hyphenate {digits : List Char} (all : digits.length = 32) :
    ofHyphenated? (hyphenate digits) = ofDigits? digits := by
  -- With the digits in five groups every index falls into a known group.
  obtain ⟨g1, g2, g3, g4, g5, rfl, l1, l2, l3, l4, l5⟩ := exists_groups all
  rw [hyphenate_groups l1 l2 l3 l4]
  unfold ofHyphenated?
  rw [if_pos (by simp [l1, l2, l3, l4, l5])]
  congr 1
  simp (disch := omega) [List.drop_append, List.drop_of_length_le, l1, l2, l3, l4]

theorem length_renderChars (u : Uuid) : u.renderChars.length = 36 :=
  length_hyphenate (length_fixedHex 32 _)

theorem renderChars_chars (u : Uuid) : ∀ c ∈ u.renderChars, Text.isIdChar c = true := by
  intro c member
  exact hyphenate_chars (fun _ => fixedHex_chars) member

/-- A UUID is read back from its printed form. -/
theorem parse_render (u : Uuid) : parse? u.render = some u := by
  unfold parse? render
  rw [String.toList_ofList]
  unfold ofChars?
  have digits := length_fixedHex 32 u.bits.toNat
  rw [if_neg (by rw [length_renderChars]; decide), if_pos (length_renderChars u)]
  unfold renderChars
  rw [ofHyphenated_hyphenate digits]
  unfold ofDigits?
  rw [if_pos digits, hexNat_fixedHex]
  have bound : u.bits.toNat < 16 ^ 32 := u.bits.isLt
  rw [Nat.mod_eq_of_lt bound, Nat.zero_mul, Nat.zero_add, Option.map_some, BitVec.ofNat_toNat,
    BitVec.setWidth_eq]

theorem toList_render (u : Uuid) : u.render.toList = u.renderChars :=
  String.toList_ofList

theorem render_ne_empty (u : Uuid) : u.render ≠ "" := by
  intro empty
  have none : u.render.toList.length = 0 := by rw [empty]; rfl
  rw [toList_render, length_renderChars] at none
  cases none

theorem trim_render (u : Uuid) : Text.trim u.render = u.render := by
  apply Text.trim_of_no_blank
  intro c member
  rw [toList_render] at member
  exact Text.isIdChar_not_blank (renderChars_chars u c member)

end Uuid

theorem UserId.parse_render (id : UserId) : UserId.parse id.render = .ok id := by
  unfold UserId.parse UserId.render
  rw [if_neg id.uuid.render_ne_empty, if_neg (fun different => different id.uuid.trim_render),
    Uuid.parse_render]

theorem UserId.uuid_of_parse {raw : String} {id : UserId} (read : parse raw = .ok id) :
    Uuid.parse? raw = some id.uuid := by
  unfold parse at read
  split at read
  · cases read
  · split at read
    · cases read
    · split at read
      · rename_i uuid found
        cases read
        exact found
      · cases read

end Folio
