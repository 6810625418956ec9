import Folio.Proofs.Time.Calendar
import Folio.Proofs.Time.Timestamp

/-!
# The instants that timestamps stand for

A timestamp stands for the instant that lies its offset before what its calendar and clock show,
counted in minutes; seconds, leap seconds among them, and nanoseconds are as written.
`parse_eq_some_iff`: reading a text gives exactly the instant it stands for. The printed form of
an instant is a timestamp that stands for it (`standsFor_render`).
-/

namespace Folio.Time

open Text

/-- The minutes from the start of the year 0 to a minute of a date. -/
def minutesAt (date : Date) (hour minute : Nat) : Int :=
  1440 * date.number + 60 * hour + minute

/-- The minutes from the start of the year 0 to the minute of an instant. -/
def Instant.minutes (t : Instant) : Int :=
  minutesAt t.date t.hour t.minute

/-- The date as it stands in a timestamp. -/
def Reading.date (r : Reading) : Date :=
  ⟨r.year, r.month, r.day⟩

/-- A reading gives a date and a time of day that exist and an offset under a day, and an instant is
that time less the offset. -/
structure Reading.Denotes (r : Reading) (t : Instant) : Prop where
  date : r.date.Exists
  hour : r.hour < 24
  minute : r.minute < 60
  offset : r.offset.natAbs < 1440
  minutes : t.minutes = minutesAt r.date r.hour r.minute - r.offset
  second : t.second = r.second
  nano : t.nano = r.nano

/-- A text is a timestamp, and what stands in it denotes an instant. -/
def StandsFor (text : String) (t : Instant) : Prop :=
  ∃ r, TimestampText text.toList r ∧ r.Denotes t

/-! ### Taking the offset off -/

namespace Date

/-- The date on which a minute lies that is counted from the start of another date. -/
def carry (d : Date) (minutes : Int) : Date :=
  if minutes < 0 then d.previous else if minutes ≥ 1440 then d.next else d

variable {d : Date} {minutes : Int}

theorem carry_inCalendar (h : d.InCalendar) (minutes : Int) : (d.carry minutes).InCalendar := by
  unfold carry
  split
  · exact previous_inCalendar h
  · split
    · exact next_inCalendar h
    · exact h

theorem number_carry (h : d.InCalendar) (low : -1440 ≤ minutes) (high : minutes < 2880) :
    1440 * (d.carry minutes).number + minutes % 1440 = 1440 * d.number + minutes := by
  unfold carry
  split
  · rw [number_previous h]
    omega
  · split
    · rw [number_next h]
      omega
    · omega

end Date

theorem Instant.ofParts_eq_some_iff {date : Date} {hour minute second nano : Nat} {t : Instant} :
    ofParts? date hour minute second nano = some t ↔
      t.date = date ∧ t.hour = hour ∧ t.minute = minute ∧ t.second = second ∧ t.nano = nano := by
  constructor
  · intro found
    unfold ofParts? at found
    split at found
    · cases found
      exact ⟨rfl, rfl, rfl, rfl, rfl⟩
    · cases found
  · rintro ⟨rfl, rfl, rfl, rfl, rfl⟩
    exact dif_pos ⟨t.date_exists, t.hour_lt, t.minute_lt, t.second_le, t.nano_lt⟩

/-- The minutes of a reading from the start of its date, the offset taken off. -/
def Reading.shifted (r : Reading) : Int :=
  60 * (r.hour : Int) + r.minute - r.offset

theorem Reading.instant_eq (r : Reading) :
    r.instant? = (Instant.ofParts? r.date r.hour r.minute r.second r.nano).bind fun civil =>
      if r.offset.natAbs < 1440 then
        Instant.ofParts? (civil.date.carry r.shifted) ((r.shifted % 1440).toNat / 60)
          ((r.shifted % 1440).toNat % 60) r.second r.nano
      else none :=
  rfl

theorem Reading.denotes_of_instant {r : Reading} {t : Instant} (found : r.instant? = some t) :
    r.Denotes t := by
  rw [instant_eq] at found
  obtain ⟨civil, shown, found⟩ := Option.bind_eq_some_iff.mp found
  obtain ⟨date, hour, minute, second, nano⟩ := Instant.ofParts_eq_some_iff.mp shown
  have hours := civil.hour_lt
  have minutes := civil.minute_lt
  have known := civil.date_exists
  split at found
  · rename_i offset
    obtain ⟨day, h, m, s, n⟩ := Instant.ofParts_eq_some_iff.mp found
    have low : -1440 ≤ r.shifted := by unfold shifted; omega
    have high : r.shifted < 2880 := by unfold shifted; omega
    have carried := Date.number_carry known.inCalendar low high
    refine ⟨date ▸ known, hour ▸ hours, minute ▸ minutes, offset, ?_, s, n⟩
    rw [date] at carried
    rw [date] at day
    unfold Instant.minutes minutesAt
    rw [day, h, m]
    unfold shifted at *
    omega
  · cases found

theorem Reading.instant_of_denotes {r : Reading} {t : Instant} (denotes : r.Denotes t) :
    r.instant? = some t := by
  obtain ⟨known, hour, minute, offset, minutes, second, nano⟩ := denotes
  have seconds := t.second_le
  have nanos := t.nano_lt
  have shown : Instant.ofParts? r.date r.hour r.minute r.second r.nano =
      some ⟨r.date, r.hour, r.minute, r.second, r.nano, known, hour, minute, second ▸ seconds,
        nano ▸ nanos⟩ :=
    Instant.ofParts_eq_some_iff.mpr ⟨rfl, rfl, rfl, rfl, rfl⟩
  have low : -1440 ≤ r.shifted := by unfold shifted; omega
  have high : r.shifted < 2880 := by unfold shifted; omega
  have carried := Date.number_carry known.inCalendar low high
  have hours := t.hour_lt
  have ended := t.minute_lt
  have total : 1440 * t.date.number + 60 * t.hour + t.minute =
      1440 * r.date.number + r.shifted := by
    unfold Instant.minutes minutesAt at minutes
    unfold shifted
    omega
  -- Minutes of a day stay below 1440, so the days agree and then the minutes.
  have day : t.date = r.date.carry r.shifted :=
    Date.eq_of_number_eq t.date_exists.inCalendar (Date.carry_inCalendar known.inCalendar _)
      (by omega)
  rw [instant_eq, shown]
  dsimp only [Option.bind_some]
  rw [if_pos offset]
  refine Instant.ofParts_eq_some_iff.mpr ⟨day, ?_, ?_, second, nano⟩
  · rw [day] at total
    omega
  · rw [day] at total
    omega

theorem parse_eq_some_iff {text : String} {t : Instant} :
    Instant.parse? text = some t ↔ StandsFor text t := by
  constructor
  · intro read
    obtain ⟨r, spelled, found⟩ := Option.bind_eq_some_iff.mp read
    exact ⟨r, reading_sound spelled, Reading.denotes_of_instant found⟩
  · rintro ⟨r, spelled, denotes⟩
    exact Option.bind_eq_some_iff.mpr
      ⟨r, reading_complete spelled, Reading.instant_of_denotes denotes⟩

/-! ### Printed instants -/

theorem afterBlanks_of {phrase : List Char → Prop} {cs : List Char} (spelled : phrase cs) :
    AfterBlanks phrase cs :=
  ⟨[], cs, by simp, spelled, rfl⟩

theorem numberText_fixedDecimal {n : Nat} (small : n < 100) :
    NumberText (fixedDecimal 2 n) n := by
  have spelled := NumberText.mk (isDigits_fixedDecimal 1 n) (Nat.le_of_eq (length_fixedDecimal 2 n))
  have value : n % 10 ^ (1 + 1) = n := Nat.mod_eq_of_lt small
  rwa [decimalValue_fixedDecimal, value] at spelled

theorem yearText_render (year : Int) : YearText (renderYear year) year := by
  unfold renderYear
  split
  · rename_i plain
    have spelled := YearText.plain (isDigits_fixedDecimal 3 year.toNat)
      (Nat.le_of_eq (length_fixedDecimal 4 year.toNat))
    have value : ((year.toNat % 10 ^ 4 : Nat) : Int) = year := by omega
    rwa [decimalValue_fixedDecimal, value] at spelled
  · dsimp only
    have digits := isDigits_padded (4 - (Nat.toDigits 10 year.natAbs).length) year.natAbs
    have value := decimalValue_padded (4 - (Nat.toDigits 10 year.natAbs).length) year.natAbs
    split
    · have spelled := YearText.behind digits
      have magnitude : -(year.natAbs : Int) = year := by omega
      rwa [value, magnitude] at spelled
    · have spelled := YearText.ahead digits
      have magnitude : (year.natAbs : Int) = year := by omega
      rwa [value, magnitude] at spelled

theorem fractionText_fixedDecimal {width nano shown : Nat}
    (exact : shown % 10 ^ (width + 1) * 10 ^ 9 = nano * 10 ^ (width + 1)) :
    FractionText ('.' :: fixedDecimal (width + 1) shown) nano := by
  have spelled := FractionText.digits (isDigits_fixedDecimal width shown)
  rwa [decimalValue_fixedDecimal, length_fixedDecimal, exact,
    Nat.mul_div_cancel _ (Nat.pow_pos (by decide))] at spelled

theorem fractionText_render {nano : Nat} (small : nano < 1000000000) :
    FractionText (renderFraction nano) nano := by
  unfold renderFraction
  split
  · rename_i zero
    rw [zero]
    exact .absent
  · split
    · exact fractionText_fixedDecimal (by omega)
    · split
      · exact fractionText_fixedDecimal (by omega)
      · exact fractionText_fixedDecimal (by omega)

namespace Instant

/-- What stands in the printed form of an instant. -/
def reading (t : Instant) : Reading :=
  ⟨t.date.year, t.date.month, t.date.day, t.hour, t.minute, t.second, t.nano, 0⟩

theorem timestampText_render (t : Instant) : TimestampText t.renderChars t.reading := by
  have ⟨months, days, hours, minutes, seconds, nanos⟩ := t.bounds
  have number : ∀ {n : Nat}, n < 100 → AfterBlanks (NumberText · n) (fixedDecimal 2 n) :=
    fun small => afterBlanks_of (numberText_fixedDecimal small)
  have whole : t.renderChars = renderYear t.date.year ++ (['-'] ++ (fixedDecimal 2 t.date.month ++
      (['-'] ++ (fixedDecimal 2 t.date.day ++ 'T' :: (fixedDecimal 2 t.hour ++ ([':'] ++
      (fixedDecimal 2 t.minute ++ ([':'] ++ (fixedDecimal 2 t.second ++
      (renderFraction t.nano ++ ['Z'])))))))))) := by
    simp [renderChars]
  rw [whole]
  exact .mk (afterBlanks_of (yearText_render _)) (afterBlanks_of rfl)
    (number (Nat.lt_trans months (by decide))) (afterBlanks_of rfl)
    (number (Nat.lt_trans days (by decide))) (Or.inl rfl)
    (number (Nat.lt_trans hours (by decide))) (afterBlanks_of rfl)
    (number (Nat.lt_trans minutes (by decide))) (afterBlanks_of rfl)
    (number (Nat.lt_trans seconds (by decide))) (fractionText_render nanos)
    (afterBlanks_of (.zulu (Or.inl rfl)))

theorem denotes_reading (t : Instant) : t.reading.Denotes t where
  date := t.date_exists
  hour := t.hour_lt
  minute := t.minute_lt
  offset := by show (0 : Int).natAbs < 1440; decide
  minutes := (Int.sub_zero t.minutes).symm
  second := rfl
  nano := rfl

theorem standsFor_render (t : Instant) : StandsFor t.render t := by
  refine ⟨t.reading, ?_, t.denotes_reading⟩
  unfold render
  rw [String.toList_ofList]
  exact t.timestampText_render

theorem parse_render (t : Instant) : parse? t.render = some t :=
  parse_eq_some_iff.mpr t.standsFor_render

end Instant

end Folio.Time
