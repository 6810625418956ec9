import Folio.Time.Instant
import Mathlib.Order.Basic

/-!
# The order of instants

`rank_lt_iff`: ranks grow exactly as instants follow each other on calendar and clock, leap seconds
and nanoseconds included.
-/

namespace Folio.Time

theorem daysIn_le (year : Int) (month : Nat) : daysIn year month ≤ 31 := by
  unfold daysIn
  split
  · split
    · omega
    · omega
  all_goals omega

theorem month_le_of_daysIn {year : Int} {month : Nat} (days : 0 < daysIn year month) :
    month ≤ 12 := by
  by_contra large
  unfold daysIn at days
  split at days <;> omega

namespace Instant

variable {a b : Instant}

/-- Every part stays below the base in which the rank counts it. -/
theorem bounds (t : Instant) : t.date.month < 13 ∧ t.date.day < 32 ∧ t.hour < 24 ∧
    t.minute < 60 ∧ t.second < 61 ∧ t.nano < 1000000000 := by
  obtain ⟨_, _, first, last⟩ := t.date_exists
  have month := month_le_of_daysIn (Nat.lt_of_lt_of_le first last)
  have day := Nat.le_trans last (daysIn_le t.date.year t.date.month)
  have second := t.second_le
  exact ⟨by omega, by omega, t.hour_lt, t.minute_lt, by omega, t.nano_lt⟩

/-- Date and time of day, the largest unit first. -/
def parts (t : Instant) : List Int :=
  [t.date.year, t.date.month, t.date.day, t.hour, t.minute, t.second, t.nano]

/-- An instant lies before another: it has less of the largest unit in which they differ. -/
def Before (a b : Instant) : Prop :=
  a.parts < b.parts

theorem rank_lt_iff : a.rank < b.rank ↔ a.Before b := by
  have first := a.bounds
  have second := b.bounds
  unfold Before parts rank
  simp only [List.cons_lt_cons_iff, List.lt_irrefl, and_false, or_false]
  omega

theorem eq_of_rank_eq (same : a.rank = b.rank) : a = b := by
  have first := a.bounds
  have second := b.bounds
  unfold rank at same
  dsimp only at same
  have parts : (a.date.year = b.date.year ∧ a.date.month = b.date.month ∧
      a.date.day = b.date.day) ∧ a.hour = b.hour ∧ a.minute = b.minute ∧ a.second = b.second ∧
      a.nano = b.nano := by
    omega
  obtain ⟨⟨_, _, _⟩, _, _, _, _⟩ := a
  obtain ⟨⟨_, _, _⟩, _, _, _, _⟩ := b
  obtain ⟨⟨rfl, rfl, rfl⟩, rfl, rfl, rfl, rfl⟩ := parts
  rfl

end Instant

end Folio.Time
