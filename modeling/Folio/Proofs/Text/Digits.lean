import Folio.Proofs.Text.Blank
import Folio.Text.Digits
import Mathlib.Algebra.Group.Nat.Defs

/-!
# Decimal digits

The number that digits spell: digits behind others count for less (`decimalValue_append`), and a
number printed in a fixed width is read back as long as the width holds it
(`decimalValue_fixedDecimal`).
-/

namespace Folio.Text

/-- One or more decimal digits. -/
def IsDigits (cs : List Char) : Prop :=
  cs ≠ [] ∧ ∀ c ∈ cs, c.isDigit = true

/-- The first character, if there is one, is not of a class. -/
def HeadNot (p : Char → Bool) (cs : List Char) : Prop :=
  ∀ c, cs.head? = some c → p c = false

theorem headNot_cons {p : Char → Bool} {c : Char} (other : p c = false) (cs : List Char) :
    HeadNot p (c :: cs) := by
  intro d first
  cases first
  exact other

theorem isDigit_not_blank {c : Char} (digit : c.isDigit = true) : isBlank c = false := by
  obtain ⟨low, high⟩ := Char.isDigit_iff_toNat.mp digit
  exact not_blank_of_visible (Nat.le_trans (by decide) low) (Nat.le_trans high (by decide))

theorem not_isDigit_of_blank {c : Char} (blank : isBlank c = true) : c.isDigit = false := by
  cases digit : c.isDigit with
  | false => rfl
  | true => rw [isDigit_not_blank digit] at blank; cases blank

theorem decimalValue_eq (cs : List Char) : decimalValue cs = Nat.ofDigitChars 10 cs 0 :=
  Nat.ofDigitChars_eq_foldl.symm

theorem decimalValue_append (a b : List Char) :
    decimalValue (a ++ b) = 10 ^ b.length * decimalValue a + decimalValue b := by
  simp only [decimalValue_eq, Nat.ofDigitChars_append]
  exact Nat.ofDigitChars_eq_ofDigitChars_zero

theorem decimalValue_cons (c : Char) (cs : List Char) :
    decimalValue (c :: cs) = 10 ^ cs.length * (c.toNat - 48) + decimalValue cs := by
  have split := decimalValue_append [c] cs
  simpa [decimalValue] using split

theorem decimalValue_lt {ds : List Char} (digits : ∀ c ∈ ds, c.isDigit = true) :
    decimalValue ds < 10 ^ ds.length := by
  induction ds with
  | nil => decide
  | cons c ds ih =>
    have rest := ih fun d member => digits d (List.mem_cons_of_mem c member)
    have bounds := Char.isDigit_iff_toNat.mp (digits c List.mem_cons_self)
    have small : c.toNat - 48 ≤ 9 := by
      have high : c.toNat ≤ 57 := bounds.2
      omega
    have lead : 10 ^ ds.length * (c.toNat - 48) ≤ 10 ^ ds.length * 9 := Nat.mul_le_mul_left _ small
    rw [decimalValue_cons, List.length_cons, Nat.pow_succ]
    omega

theorem length_fixedDecimal (width n : Nat) : (fixedDecimal width n).length = width := by
  induction width with
  | zero => rfl
  | succ width ih => rw [fixedDecimal, List.length_cons, ih]

theorem fixedDecimal_digits (width n : Nat) : ∀ c ∈ fixedDecimal width n, c.isDigit = true := by
  induction width with
  | zero => simp [fixedDecimal]
  | succ width ih =>
    have small : n / Nat.pow 10 width % 10 < 10 := Nat.mod_lt _ (by decide)
    intro c member
    rw [fixedDecimal, List.mem_cons] at member
    rcases member with rfl | later
    · rw [Nat.isDigit_digitChar]
      exact decide_eq_true small
    · exact ih c later

theorem decimalValue_fixedDecimal (width n : Nat) :
    decimalValue (fixedDecimal width n) = n % 10 ^ width := by
  induction width with
  | zero => simp [fixedDecimal, decimalValue, Nat.mod_one]
  | succ width ih =>
    have small : n / Nat.pow 10 width % 10 < 10 := Nat.mod_lt _ (by decide)
    rw [fixedDecimal, decimalValue_cons, Nat.toNat_digitChar_sub_48_of_lt_ten small, ih,
      length_fixedDecimal, Nat.pow_succ, Nat.mod_mul]
    exact Nat.add_comm _ _

theorem isDigits_fixedDecimal (width n : Nat) : IsDigits (fixedDecimal (width + 1) n) :=
  ⟨by simp [fixedDecimal], fixedDecimal_digits (width + 1) n⟩

/-- Zeros in front of a number do not change it. -/
theorem decimalValue_padded (zeros n : Nat) :
    decimalValue (List.replicate zeros '0' ++ Nat.toDigits 10 n) = n := by
  rw [decimalValue_append, decimalValue_eq (Nat.toDigits 10 n), Nat.ofDigitChars_ten_toDigits,
    decimalValue_eq, Nat.ofDigitChars_replicate_zero, Nat.mul_zero, Nat.mul_zero, Nat.zero_add]

theorem isDigits_padded (zeros n : Nat) :
    IsDigits (List.replicate zeros '0' ++ Nat.toDigits 10 n) := by
  refine ⟨by simp [Nat.toDigits_ne_nil], fun c member => ?_⟩
  rcases List.mem_append.mp member with zero | digit
  · rw [List.eq_of_mem_replicate zero]
    rfl
  · exact Nat.isDigit_of_mem_toDigits (by decide) (by decide) digit

theorem span_digits {ds rest : List Char} (digits : ∀ c ∈ ds, c.isDigit = true)
    (stop : HeadNot Char.isDigit rest) :
    (ds ++ rest).takeWhile Char.isDigit = ds ∧ (ds ++ rest).dropWhile Char.isDigit = rest := by
  have left : (ds ++ rest).dropWhile Char.isDigit = rest := by
    rw [List.dropWhile_append_of_pos digits, dropWhile_of_head stop]
  refine ⟨?_, left⟩
  have whole := List.takeWhile_append_dropWhile (p := Char.isDigit) (l := ds ++ rest)
  rw [left] at whole
  exact List.append_cancel_right whole

/-- Only zero is printed with a zero in front. -/
theorem head_toDigits {n : Nat} (positive : 0 < n) : (Nat.toDigits 10 n).head? ≠ some '0' := by
  induction n using Nat.strongRecOn with
  | ind n ih =>
    rw [Nat.toDigits_eq_if (by decide)]
    split
    · rename_i small
      have all : ∀ n < 10, 0 < n → [n.digitChar].head? ≠ some '0' := by decide
      exact all n small positive
    · rename_i large
      have shorter : n / 10 < n := Nat.div_lt_self positive (by decide)
      have lead := ih (n / 10) shorter (by omega)
      cases digits : Nat.toDigits 10 (n / 10) with
      | nil => exact (Nat.toDigits_ne_nil digits).elim
      | cons d ds =>
        rw [digits] at lead
        simpa using lead

end Folio.Text
