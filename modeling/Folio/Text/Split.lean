/-!
# Splitting

Lists cut at separators: at every one, or at the first.
-/

namespace Folio.Text

variable {α : Type}

/-- The pieces between the elements for which `sep` holds; always at least one. -/
def split (sep : α → Bool) : List α → List (List α)
  | [] => [[]]
  | a :: rest =>
    if sep a then [] :: split sep rest
    else
      match split sep rest with
      | [] => [[a]]
      | piece :: pieces => (a :: piece) :: pieces

/-- What stands before and after the first element for which `sep` holds. -/
def splitFirst (sep : α → Bool) : List α → List α × Option (List α)
  | [] => ([], none)
  | a :: rest =>
    if sep a then ([], some rest)
    else
      let (before, after) := splitFirst sep rest
      (a :: before, after)

/-! ### Laws of `split` -/

variable {sep : α → Bool} {piece : List α}

theorem split_clear (clear : ∀ a ∈ piece, sep a = false) : split sep piece = [piece] := by
  induction piece with
  | nil => rfl
  | cons a rest ih =>
    rw [split, clear a List.mem_cons_self,
      ih fun b member => clear b (List.mem_cons_of_mem a member)]
    rfl

theorem split_append {a : α} (clear : ∀ b ∈ piece, sep b = false) (cut : sep a = true)
    (rest : List α) : split sep (piece ++ a :: rest) = piece :: split sep rest := by
  induction piece with
  | nil => rw [List.nil_append, split, if_pos cut]
  | cons b piece ih =>
    rw [List.cons_append, split, clear b List.mem_cons_self,
      ih fun c member => clear c (List.mem_cons_of_mem b member)]
    rfl

theorem split_intercalate {a : α} {pieces : List (List α)} (some : pieces ≠ [])
    (clear : ∀ piece ∈ pieces, ∀ b ∈ piece, sep b = false) (cut : sep a = true) :
    split sep ([a].intercalate pieces) = pieces := by
  induction pieces with
  | nil => exact absurd rfl some
  | cons piece rest ih =>
    have here := clear piece List.mem_cons_self
    cases rest with
    | nil => simpa using split_clear here
    | cons next later =>
      rw [List.intercalate_cons_cons, List.append_assoc, List.singleton_append,
        split_append here cut, ih (List.cons_ne_nil _ _) fun piece member =>
          clear piece (List.mem_cons_of_mem _ member)]

end Folio.Text
