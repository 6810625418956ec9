import Folio.Proofs.Time.Instant

/-!
# Counting days

Every date has a number, counted from the first day of the year 0. The day after a date has the
next number and the day before it the previous one, across the ends of months, of years and of
February in leap years, and no two dates share a number.
-/

namespace Folio.Time

/-- The days before a year: 365 for every year since the year 0 and one more for every leap year. -/
def yearStart (year : Int) : Int :=
  365 * year + (year + 3) / 4 - (year + 99) / 100 + (year + 399) / 400

/-- The days of a year before a month. -/
def daysBefore (year : Int) : Nat → Int
  | 0 => 0
  | month + 1 => daysBefore year month + daysIn year month

/-- A date that the calendar has, in any year. -/
def Date.InCalendar (d : Date) : Prop :=
  1 ≤ d.day ∧ d.day ≤ daysIn d.year d.month

/-- The number of a date; the first day of the year 0 has the number 0. -/
def Date.number (d : Date) : Int :=
  yearStart d.year + daysBefore d.year d.month + (d.day - 1)

example : (Date.mk 1970 1 1).number = 719528 := by decide

/-! ### Months and years -/

theorem isLeap_iff {year : Int} :
    isLeap year = true ↔ year % 4 = 0 ∧ (year % 100 ≠ 0 ∨ year % 400 = 0) := by
  simp [isLeap]

theorem daysBefore_end (year : Int) : daysBefore year 13 = if isLeap year then 366 else 365 := by
  have february : daysIn year 2 = if isLeap year then 29 else 28 := rfl
  have sum : daysBefore year 13 = 337 + daysIn year 2 := by
    simp only [daysBefore, daysIn]
    omega
  rw [sum, february]
  split
  · rfl
  · rfl

theorem le_daysIn (year : Int) {month : Nat} (low : 1 ≤ month) (high : month ≤ 12) :
    28 ≤ daysIn year month := by
  unfold daysIn
  split
  · split
    · decide
    · decide
  all_goals grind

theorem yearStart_next (year : Int) :
    yearStart (year + 1) = yearStart year + daysBefore year 13 := by
  rw [daysBefore_end]
  unfold yearStart
  split
  · rename_i leap
    rw [isLeap_iff] at leap
    omega
  · rename_i common
    rw [isLeap_iff] at common
    omega

theorem yearStart_mono {a b : Int} (le : a ≤ b) : yearStart a ≤ yearStart b := by
  unfold yearStart
  omega

theorem daysBefore_mono (year : Int) {m n : Nat} (le : m ≤ n) :
    daysBefore year m ≤ daysBefore year n := by
  induction n with
  | zero =>
    obtain rfl : m = 0 := by omega
    exact Int.le_refl _
  | succ n ih =>
    by_cases last : m = n + 1
    · exact Int.le_of_eq (congrArg _ last)
    · have step : daysBefore year (n + 1) = daysBefore year n + daysIn year n := rfl
      have before := ih (by omega)
      omega

namespace Date

variable {a b d : Date}

theorem Exists.inCalendar (h : d.Exists) : d.InCalendar := h.2.2

theorem InCalendar.month_bounds (h : d.InCalendar) : 1 ≤ d.month ∧ d.month ≤ 12 := by
  obtain ⟨first, last⟩ := h
  refine ⟨?_, month_le_of_daysIn (Nat.lt_of_lt_of_le first last)⟩
  by_contra none
  have zero : d.month = 0 := by omega
  rw [zero] at last
  have empty : daysIn d.year 0 = 0 := rfl
  omega

/-- A date lies between the first day of its month and that of the next. -/
theorem InCalendar.number_in_month (h : d.InCalendar) :
    yearStart d.year + daysBefore d.year d.month ≤ d.number ∧
      d.number < yearStart d.year + daysBefore d.year (d.month + 1) := by
  obtain ⟨first, last⟩ := h
  have step : daysBefore d.year (d.month + 1) =
      daysBefore d.year d.month + daysIn d.year d.month := rfl
  unfold number
  omega

/-- A date lies between the first day of its year and that of the next. -/
theorem InCalendar.number_in_year (h : d.InCalendar) :
    yearStart d.year ≤ d.number ∧ d.number < yearStart (d.year + 1) := by
  have month := h.number_in_month
  have ⟨_, late⟩ := h.month_bounds
  have start : daysBefore d.year 0 ≤ daysBefore d.year d.month := daysBefore_mono _ (by omega)
  have zero : daysBefore d.year 0 = 0 := rfl
  have finish : daysBefore d.year (d.month + 1) ≤ daysBefore d.year 13 :=
    daysBefore_mono _ (by omega)
  rw [yearStart_next]
  omega

theorem number_lt_of_year_lt (ha : a.InCalendar) (hb : b.InCalendar) (lt : a.year < b.year) :
    a.number < b.number := by
  have before := ha.number_in_year
  have after := hb.number_in_year
  have years := yearStart_mono (Int.add_one_le_of_lt lt)
  omega

theorem number_lt_of_month_lt (ha : a.InCalendar) (hb : b.InCalendar) (year : a.year = b.year)
    (lt : a.month < b.month) : a.number < b.number := by
  have before := ha.number_in_month
  have after := hb.number_in_month
  have months : daysBefore b.year (a.month + 1) ≤ daysBefore b.year b.month :=
    daysBefore_mono b.year lt
  rw [year] at before
  omega

theorem eq_of_number_eq (ha : a.InCalendar) (hb : b.InCalendar) (same : a.number = b.number) :
    a = b := by
  have year : a.year = b.year := by
    rcases Int.lt_trichotomy a.year b.year with lt | eq | gt
    · have := number_lt_of_year_lt ha hb lt
      omega
    · exact eq
    · have := number_lt_of_year_lt hb ha gt
      omega
  have month : a.month = b.month := by
    rcases Nat.lt_trichotomy a.month b.month with lt | eq | gt
    · have := number_lt_of_month_lt ha hb year lt
      omega
    · exact eq
    · have := number_lt_of_month_lt hb ha year.symm gt
      omega
  obtain ⟨y, m, n⟩ := a
  obtain ⟨y', m', n'⟩ := b
  obtain rfl : y = y' := year
  obtain rfl : m = m' := month
  have day : n = n' := by
    unfold number at same
    dsimp only at same
    omega
  rw [day]

/-! ### The day after and the day before -/

theorem next_inCalendar (h : d.InCalendar) : d.next.InCalendar := by
  have ⟨_, late⟩ := h.month_bounds
  unfold next
  split
  · rename_i within
    exact ⟨Nat.le_add_left 1 d.day, within⟩
  · split
    · rename_i more
      have days : 28 ≤ daysIn d.year (d.month + 1) := le_daysIn _ (by omega) (by omega)
      exact ⟨Nat.le_refl 1, by dsimp only; omega⟩
    · have days : daysIn (d.year + 1) 1 = 31 := rfl
      exact ⟨Nat.le_refl 1, by dsimp only; omega⟩

theorem previous_inCalendar (h : d.InCalendar) : d.previous.InCalendar := by
  obtain ⟨first, last⟩ := h
  have ⟨_, late⟩ := InCalendar.month_bounds ⟨first, last⟩
  unfold previous
  split
  · exact ⟨by dsimp only; omega, by dsimp only; omega⟩
  · split
    · rename_i more
      have days : 28 ≤ daysIn d.year (d.month - 1) := le_daysIn _ (by omega) (by omega)
      exact ⟨by dsimp only; omega, Nat.le_refl _⟩
    · have days : daysIn (d.year - 1) 12 = 31 := rfl
      exact ⟨by dsimp only; omega, by dsimp only; omega⟩

theorem number_next (h : d.InCalendar) : d.next.number = d.number + 1 := by
  have ⟨_, late⟩ := h.month_bounds
  obtain ⟨year, month, day⟩ := d
  obtain ⟨first, last⟩ := h
  dsimp only at first last late
  have step : daysBefore year (month + 1) = daysBefore year month + daysIn year month := rfl
  unfold next number
  dsimp only
  split
  · dsimp only
    omega
  · split
    · dsimp only
      omega
    · obtain rfl : month = 12 := by omega
      have length : daysBefore year 13 = daysBefore year 12 + daysIn year 12 := step
      have start : daysBefore (year + 1) 1 = 0 := rfl
      have new := yearStart_next year
      dsimp only
      omega

theorem number_previous (h : d.InCalendar) : d.previous.number = d.number - 1 := by
  obtain ⟨first, last⟩ := h
  have ⟨early, _⟩ := InCalendar.month_bounds ⟨first, last⟩
  unfold previous
  split
  · unfold number
    dsimp only
    omega
  · split
    · obtain ⟨before, month⟩ : ∃ m, d.month = m + 1 := ⟨d.month - 1, by omega⟩
      have step : daysBefore d.year (before + 1) =
          daysBefore d.year before + daysIn d.year before := rfl
      unfold number
      dsimp only
      rw [month, Nat.add_sub_cancel]
      omega
    · have january : d.month = 1 := by omega
      have year := yearStart_next (d.year - 1)
      have length : daysBefore (d.year - 1) 13 = daysBefore (d.year - 1) 12 + 31 := rfl
      have start : daysBefore d.year 1 = 0 := rfl
      rw [Int.sub_add_cancel] at year
      unfold number
      dsimp only
      rw [january]
      omega

end Date

end Folio.Time
