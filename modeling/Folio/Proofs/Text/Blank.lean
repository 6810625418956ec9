import Folio.Text.Blank

/-!
# Texts without blanks at their ends

Trimming leaves alone what has no blank at either end, and what it gives is such a text: the one
part of a text that stands between the blanks around it (`Trimmed.eq_trim`).
-/

namespace Folio.Text

/-- No code point lies in ranges of both of two classes that keep apart. -/
theorem inRanges_disjoint {a b : List (Nat × Nat)}
    (apart : ∀ r ∈ a, ∀ q ∈ b, r.2 < q.1 ∨ q.2 < r.1) {code : Nat}
    (inside : inRanges a code = true) : inRanges b code = false := by
  obtain ⟨r, first, low, high⟩ := inRanges_eq_true_iff.mp inside
  cases other : inRanges b code with
  | false => rfl
  | true =>
    obtain ⟨q, second, below, above⟩ := inRanges_eq_true_iff.mp other
    rcases apart r first q second with left | right
    · omega
    · omega

/-- No visible character of ASCII is blank. -/
theorem not_blank_of_visible {c : Char} (low : 0x21 ≤ c.toNat) (high : c.toNat ≤ 0x7e) :
    isBlank c = false := by
  have apart : ∀ r ∈ [(0x21, 0x7e)], ∀ q ∈ blankRanges, r.2 < q.1 ∨ q.2 < r.1 := by decide
  exact inRanges_disjoint apart
    (inRanges_eq_true_iff.mpr ⟨(0x21, 0x7e), List.mem_singleton_self _, low, high⟩)

theorem dropWhile_of_head {p : Char → Bool} {cs : List Char}
    (head : ∀ c, cs.head? = some c → p c = false) : cs.dropWhile p = cs := by
  cases cs with
  | nil => rfl
  | cons c rest => rw [List.dropWhile_cons_of_neg (by simp [head c rfl])]

theorem head_dropWhile {p : Char → Bool} {cs : List Char} {c : Char}
    (first : (cs.dropWhile p).head? = some c) : p c = false := by
  induction cs with
  | nil => simp at first
  | cons d rest ih =>
    rw [List.dropWhile_cons] at first
    split at first
    · exact ih first
    · rename_i stays
      have same : d = c := by simpa using first
      subst same
      simpa using stays

theorem getLast_dropBlankEnd {cs : List Char} {c : Char}
    (last : (dropBlankEnd cs).getLast? = some c) : isBlank c = false := by
  unfold dropBlankEnd at last
  rw [List.getLast?_reverse] at last
  exact head_dropWhile last

theorem head_dropBlankEnd {cs : List Char} {c : Char} (first : (dropBlankEnd cs).head? = some c) :
    cs.head? = some c := by
  unfold dropBlankEnd at first
  rw [List.head?_reverse] at first
  -- What is dropped comes from the other end, so the first character was there before.
  have suffix := List.dropWhile_suffix (l := cs.reverse) isBlank
  obtain ⟨dropped, whole⟩ := suffix
  rw [← List.getLast?_reverse, ← whole, List.getLast?_append, first]
  rfl

/-! ### The part between the blanks -/

/-- A text is what stands between the blanks around another. -/
structure Trimmed (raw text : String) : Prop where
  between : ∃ before after, raw.toList = before ++ (text.toList ++ after) ∧
    (∀ c ∈ before, isBlank c = true) ∧ ∀ c ∈ after, isBlank c = true
  first : ∀ c, text.toList.head? = some c → isBlank c = false
  last : ∀ c, text.toList.getLast? = some c → isBlank c = false

theorem dropBlankEnd_append {cs after : List Char} (blank : ∀ c ∈ after, isBlank c = true)
    (last : ∀ c, cs.getLast? = some c → isBlank c = false) : dropBlankEnd (cs ++ after) = cs := by
  have reversed : ∀ c ∈ after.reverse, isBlank c = true := by simpa using blank
  have stop : ∀ c, cs.reverse.head? = some c → isBlank c = false := by
    simpa [List.head?_reverse] using last
  unfold dropBlankEnd
  rw [List.reverse_append, List.dropWhile_append_of_pos reversed, dropWhile_of_head stop,
    List.reverse_reverse]

theorem exists_dropBlankEnd (cs : List Char) :
    ∃ after, cs = dropBlankEnd cs ++ after ∧ ∀ c ∈ after, isBlank c = true := by
  refine ⟨(cs.reverse.takeWhile isBlank).reverse, ?_, ?_⟩
  · unfold dropBlankEnd
    rw [← List.reverse_append, List.takeWhile_append_dropWhile, List.reverse_reverse]
  · intro c member
    exact List.all_eq_true.mp List.all_takeWhile c (List.mem_reverse.mp member)

theorem trimmed_trim (raw : String) : Trimmed raw (trim raw) := by
  have chars : (trim raw).toList = dropBlankEnd (raw.toList.dropWhile isBlank) :=
    String.toList_ofList
  obtain ⟨after, split, blank⟩ := exists_dropBlankEnd (raw.toList.dropWhile isBlank)
  refine ⟨⟨raw.toList.takeWhile isBlank, after, ?_, ?_, blank⟩, ?_, ?_⟩
  · rw [chars, ← split, List.takeWhile_append_dropWhile]
  · exact List.all_eq_true.mp List.all_takeWhile
  · intro c first
    rw [chars] at first
    exact head_dropWhile (head_dropBlankEnd first)
  · intro c last
    rw [chars] at last
    exact getLast_dropBlankEnd last

theorem Trimmed.eq_trim {raw text : String} (trimmed : Trimmed raw text) : text = trim raw := by
  obtain ⟨⟨before, after, split, blank, blank_after⟩, first, last⟩ := trimmed
  have chars : trimChars raw.toList = text.toList := by
    unfold trimChars
    rw [split, List.dropWhile_append_of_pos blank]
    cases visible : text.toList with
    | nil =>
      -- Nothing is visible, so that everything falls to the first of the two passes.
      rw [List.nil_append, ← List.append_nil after, List.dropWhile_append_of_pos blank_after]
      rfl
    | cons c rest =>
      have stop : ∀ d, (c :: rest ++ after).head? = some d → isBlank d = false := by
        intro d head
        exact first d (by rw [visible]; exact head)
      rw [dropWhile_of_head stop]
      exact dropBlankEnd_append blank_after (by rwa [visible] at last)
  unfold trim
  rw [chars, String.ofList_toList]

theorem Trimmed.self {raw text : String} (trimmed : Trimmed raw text) : Trimmed text text :=
  ⟨⟨[], [], by simp, by simp, by simp⟩, trimmed.first, trimmed.last⟩

theorem trim_idem (s : String) : trim (trim s) = trim s :=
  (trimmed_trim s).self.eq_trim.symm

theorem trim_of_no_blank {s : String} (clear : ∀ c ∈ s.toList, isBlank c = false) : trim s = s := by
  have whole : Trimmed s s := by
    refine ⟨⟨[], [], by simp, by simp, by simp⟩, ?_, ?_⟩
    · intro c first
      exact clear c (List.mem_of_head? first)
    · intro c last
      exact clear c (List.mem_of_getLast? last)
  exact whole.eq_trim.symm

end Folio.Text
