import Folio.Proofs.Uuid

/-!
# The text forms of a UUID

A text that is read as a UUID holds 32 hexadecimal digits in one of four forms, and the UUID is
printed with the same digits in lower case (`forms_of_parse`).
-/

namespace Folio

theorem Text.hexDigit_of_hexValue {c : Char} {n : Nat} (value : hexValue? c = some n) :
    n < 16 ∧ hexDigit n = c.toLower := by
  have all : ∀ code < 0x67, ∀ n ∈ hexValue? (Char.ofNat code),
      n < 16 ∧ hexDigit n = (Char.ofNat code).toLower := by
    decide +kernel
  have small : c.toNat < 0x67 := by
    unfold hexValue? at value
    grind
  rw [← Char.ofNat_toNat c] at value ⊢
  exact all c.toNat small n value

namespace Uuid

/-- The texts with given digits: the digits alone, with hyphens between their groups, these in
braces, or after the name of the scheme. -/
inductive Form (digits : List Char) : List Char → Prop where
  | plain : Form digits digits
  | hyphenated : Form digits (hyphenate digits)
  | braced : Form digits ('\x7b' :: (hyphenate digits ++ ['\x7d']))
  | named {scheme : List Char} (lower : scheme.map Char.toLower = urn) :
      Form digits (scheme ++ hyphenate digits)

/-- What is read into a number stands in its last digits. -/
theorem hexNat_sound {acc n : Nat} {ds : List Char} (read : hexNat? acc ds = some n) :
    n / 16 ^ ds.length = acc ∧ fixedHex ds.length n = ds.map Char.toLower := by
  induction ds generalizing acc with
  | nil =>
    cases read
    simp [fixedHex]
  | cons c ds ih =>
    rw [hexNat?] at read
    split at read
    · rename_i digit value
      obtain ⟨lead, rest⟩ := ih read
      obtain ⟨small, shown⟩ := Text.hexDigit_of_hexValue value
      constructor
      · rw [List.length_cons, Nat.pow_succ, ← Nat.div_div_eq_div_mul, lead]
        omega
      · have last : n / Nat.pow 16 ds.length % 16 = digit := by
          show n / 16 ^ ds.length % 16 = digit
          omega
        rw [List.length_cons, fixedHex, last, shown, rest]
        rfl
    · cases read

theorem ofDigits_sound {ds : List Char} {u : Uuid} (read : ofDigits? ds = some u) :
    ds.length = 32 ∧ u.renderChars = hyphenate (ds.map Char.toLower) := by
  unfold ofDigits? at read
  split at read
  · rename_i all
    obtain ⟨n, number, rfl⟩ := Option.map_eq_some_iff.mp read
    obtain ⟨none, digits⟩ := hexNat_sound number
    rw [all] at none digits
    have small : n < 2 ^ 128 := by
      have bound : n < 16 ^ 32 := by omega
      exact bound
    refine ⟨all, ?_⟩
    unfold renderChars
    rw [BitVec.toNat_ofNat, Nat.mod_eq_of_lt small, digits]
  · cases read

theorem ofHyphenated_sound {cs : List Char} {u : Uuid} (read : ofHyphenated? cs = some u) :
    ∃ ds, cs = hyphenate ds ∧ ofDigits? ds = some u := by
  unfold ofHyphenated? at read
  split at read
  · rename_i shape
    obtain ⟨length, h8, h13, h18, h23⟩ := shape
    refine ⟨_, ?_, read⟩
    have hyphen : ∀ n, cs[n]? = some '-' → cs.drop n = '-' :: cs.drop (n + 1) := by
      intro n found
      rw [List.drop_eq_getElem?_toList_append, found]
      rfl
    have group : ∀ n, cs.drop n = (cs.drop n).take 4 ++ cs.drop (n + 4) := by
      intro n
      rw [← List.drop_drop, List.take_append_drop]
    simp only [List.append_assoc]
    rw [hyphenate_groups (by simp [length]) (by simp [length]) (by simp [length])
      (by simp [length]), ← hyphen 23 h23, ← group 19, ← hyphen 18 h18, ← group 14, ← hyphen 13 h13,
      ← group 9, ← hyphen 8 h8, List.take_append_drop]
  · cases read

theorem exists_braced {cs : List Char} (length : cs.length = 38) (opens : cs.head? = some '\x7b')
    (closes : cs.getLast? = some '\x7d') : cs = '\x7b' :: ((cs.drop 1).take 36 ++ ['\x7d']) := by
  obtain ⟨rest, rfl⟩ : ∃ rest, cs = '\x7b' :: rest := List.head?_eq_some_iff.mp opens
  obtain ⟨init, last⟩ := List.getLast?_eq_some_iff.mp closes
  cases init with
  | nil => simp at last
  | cons _ inner =>
    obtain ⟨rfl, (rfl : rest = inner ++ ['\x7d'])⟩ := List.cons.inj last
    have whole : inner.length = 36 := by simpa using length
    rw [List.drop_one, List.tail_cons, ← whole, List.take_left]

theorem ofChars_sound {cs : List Char} {u : Uuid} (read : ofChars? cs = some u) :
    ∃ ds, Form ds cs ∧ ofDigits? ds = some u := by
  unfold ofChars? at read
  split at read
  · exact ⟨cs, .plain, read⟩
  · split at read
    · obtain ⟨ds, whole, digits⟩ := ofHyphenated_sound read
      exact ⟨ds, whole ▸ .hyphenated, digits⟩
    · split at read
      · rename_i shape
        obtain ⟨ds, whole, digits⟩ := ofHyphenated_sound read
        refine ⟨ds, ?_, digits⟩
        rw [exists_braced shape.1 shape.2.1 shape.2.2, whole]
        exact .braced
      · split at read
        · rename_i shape
          obtain ⟨ds, whole, digits⟩ := ofHyphenated_sound read
          refine ⟨ds, ?_, digits⟩
          rw [← List.take_append_drop 9 cs, whole]
          exact .named shape.2
        · cases read

theorem forms_of_parse {text : String} {u : Uuid} (read : parse? text = some u) :
    ∃ ds, ds.length = 32 ∧ Form ds text.toList ∧
      u.render = String.ofList (hyphenate (ds.map Char.toLower)) := by
  obtain ⟨ds, form, digits⟩ := ofChars_sound read
  obtain ⟨all, shown⟩ := ofDigits_sound digits
  exact ⟨ds, all, form, congrArg String.ofList shown⟩

end Uuid

end Folio
