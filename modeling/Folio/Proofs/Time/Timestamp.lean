import Folio.Proofs.Text.Digits
import Folio.Time.Rfc3339

/-!
# The grammar of timestamps

`TimestampText` says which texts are timestamps and what stands in them, phrase by phrase, without
saying how they are read. `reading_eq_some_iff`: the reader accepts exactly these texts and reads
what stands in them.
-/

namespace Folio.Time

open Text

/-! ### Phrases -/

/-- A text of a phrase with any number of blanks in front of it. -/
def AfterBlanks (phrase : List Char → Prop) (cs : List Char) : Prop :=
  ∃ blanks text, (∀ c ∈ blanks, isBlank c = true) ∧ phrase text ∧ cs = blanks ++ text

/-- A year: up to four digits, or a sign and any number of digits. -/
inductive YearText : List Char → Int → Prop where
  | plain {ds : List Char} (digits : IsDigits ds) (short : ds.length ≤ 4) :
      YearText ds (decimalValue ds)
  | ahead {ds : List Char} (digits : IsDigits ds) : YearText ('+' :: ds) (decimalValue ds)
  | behind {ds : List Char} (digits : IsDigits ds) : YearText ('-' :: ds) (-(decimalValue ds : Int))

/-- A month, a day, an hour, a minute or a second: one or two digits. -/
inductive NumberText : List Char → Nat → Prop where
  | mk {ds : List Char} (digits : IsDigits ds) (short : ds.length ≤ 2) :
      NumberText ds (decimalValue ds)

/-- A fraction of a second, as whole nanoseconds: nothing, or a point and any number of digits. -/
inductive FractionText : List Char → Nat → Prop where
  | absent : FractionText [] 0
  | digits {ds : List Char} (digits : IsDigits ds) :
      FractionText ('.' :: ds) (decimalValue ds * 10 ^ 9 / 10 ^ ds.length)

/-- Two digits. -/
def TwoDigits (ds : List Char) : Prop :=
  ds.length = 2 ∧ ∀ c ∈ ds, c.isDigit = true

/-- Hours and minutes, as minutes, with colons and blanks or nothing between them. -/
inductive SpanText : List Char → Nat → Prop where
  | mk {hours gap minutes : List Char} (hour : TwoDigits hours)
      (between : ∀ c ∈ gap, c = ':' ∨ isBlank c = true) (minute : TwoDigits minutes)
      (under : decimalValue minutes < 60) :
      SpanText (hours ++ (gap ++ minutes)) (60 * decimalValue hours + decimalValue minutes)

/-- An offset from UTC, in minutes: the letter Z, the letters UTC, or a sign and a span. -/
inductive OffsetText : List Char → Int → Prop where
  | zulu {c : Char} (letter : c = 'Z' ∨ c = 'z') : OffsetText [c] 0
  | utc {cs : List Char} (letters : cs.map Char.toLower = ['u', 't', 'c']) : OffsetText cs 0
  | ahead {cs : List Char} {n : Nat} (span : SpanText cs n) : OffsetText ('+' :: cs) n
  | behind {c : Char} {cs : List Char} {n : Nat} (minus : c = '-' ∨ c = '−')
      (span : SpanText cs n) : OffsetText (c :: cs) (-(n : Int))

/-- A timestamp: a date, the letter T or a space, a time of day, and an offset. -/
inductive TimestampText : List Char → Reading → Prop where
  | mk {year dash month dash' day hour colon minute colon' second fraction offset : List Char}
      {mark : Char} {r : Reading}
      (isYear : AfterBlanks (YearText · r.year) year) (first : AfterBlanks (· = ['-']) dash)
      (isMonth : AfterBlanks (NumberText · r.month) month) (next : AfterBlanks (· = ['-']) dash')
      (isDay : AfterBlanks (NumberText · r.day) day)
      (between : mark = 'T' ∨ mark = 't' ∨ mark = ' ')
      (isHour : AfterBlanks (NumberText · r.hour) hour) (third : AfterBlanks (· = [':']) colon)
      (isMinute : AfterBlanks (NumberText · r.minute) minute)
      (last : AfterBlanks (· = [':']) colon')
      (isSecond : AfterBlanks (NumberText · r.second) second)
      (isFraction : FractionText fraction r.nano)
      (isOffset : AfterBlanks (OffsetText · r.offset) offset) :
      TimestampText (year ++ (dash ++ (month ++ (dash' ++ (day ++ mark :: (hour ++ (colon ++
        (minute ++ (colon' ++ (second ++ (fraction ++ offset))))))))))) r

/-! ### What may follow a phrase -/

theorem headNot_afterBlanks {p : Char → Bool} {phrase : List Char → Prop} {cs : List Char}
    (blank : ∀ c, isBlank c = true → p c = false)
    (head : ∀ text, phrase text → ∃ c more, text = c :: more ∧ p c = false)
    (text : AfterBlanks phrase cs) (rest : List Char) : HeadNot p (cs ++ rest) := by
  obtain ⟨blanks, text, blanks_blank, spelled, rfl⟩ := text
  cases blanks with
  | nil =>
    obtain ⟨c, more, rfl, other⟩ := head text spelled
    exact headNot_cons other _
  | cons c blanks => exact headNot_cons (blank c (blanks_blank c List.mem_cons_self)) _

theorem skipBlanks_append {blanks rest : List Char} (blank : ∀ c ∈ blanks, isBlank c = true)
    (stop : HeadNot isBlank rest) : skipBlanks (blanks ++ rest) = rest := by
  unfold skipBlanks
  rw [List.dropWhile_append_of_pos blank]
  exact dropWhile_of_head stop

theorem exists_blanks (cs : List Char) :
    ∃ blanks, (∀ c ∈ blanks, isBlank c = true) ∧ cs = blanks ++ skipBlanks cs :=
  ⟨cs.takeWhile isBlank, List.all_eq_true.mp List.all_takeWhile,
    List.takeWhile_append_dropWhile.symm⟩

theorem headNot_blank_of_digits {ds : List Char} (digits : IsDigits ds) (rest : List Char) :
    HeadNot isBlank (ds ++ rest) := by
  obtain ⟨filled, all⟩ := digits
  cases ds with
  | nil => exact (filled rfl).elim
  | cons c ds => exact headNot_cons (isDigit_not_blank (all c List.mem_cons_self)) _

/-! ### Digits -/

/-- Digits are taken from the front, up to the number asked for or to the first other character. -/
theorem takeDigits_sound {most : Nat} {cs ds rest : List Char}
    (taken : takeDigits most cs = (ds, rest)) :
    cs = ds ++ rest ∧ ds.length ≤ most ∧ (∀ c ∈ ds, c.isDigit = true) ∧
      (ds.length = most ∨ HeadNot Char.isDigit rest) := by
  induction most generalizing cs ds with
  | zero =>
    cases taken
    simp
  | succ most ih =>
    cases cs with
    | nil =>
      cases taken
      simp [HeadNot]
    | cons c cs =>
      rw [takeDigits] at taken
      split at taken
      · rename_i digit
        cases taken
        obtain ⟨whole, short, all, stop⟩ := ih rfl
        refine ⟨congrArg (c :: ·) whole, Nat.succ_le_succ short,
          List.forall_mem_cons.mpr ⟨digit, all⟩, ?_⟩
        exact stop.imp_left (congrArg Nat.succ)
      · rename_i other
        cases taken
        exact ⟨rfl, Nat.zero_le _, by simp, Or.inr (headNot_cons (by simpa using other) cs)⟩

theorem takeDigits_append {most : Nat} {ds rest : List Char}
    (digits : ∀ c ∈ ds, c.isDigit = true) (stop : HeadNot Char.isDigit rest) :
    takeDigits most (ds ++ rest) = (ds.take most, ds.drop most ++ rest) := by
  induction most generalizing ds with
  | zero => rfl
  | succ most ih =>
    cases ds with
    | nil =>
      cases rest with
      | nil => rfl
      | cons c rest => simp [takeDigits, stop c rfl]
    | cons c ds =>
      have later := ih fun d member => digits d (List.mem_cons_of_mem c member)
      rw [List.cons_append, takeDigits, if_pos (digits c List.mem_cons_self), later]
      rfl

theorem digits_sound {most n : Nat} {cs rest : List Char}
    (read : digits? most cs = some (n, rest)) :
    ∃ ds, IsDigits ds ∧ ds.length ≤ most ∧ n = decimalValue ds ∧ cs = ds ++ rest := by
  unfold digits? at read
  split at read
  · cases read
  · rename_i ds more filled taken
    cases read
    obtain ⟨whole, short, all, _⟩ := takeDigits_sound taken
    exact ⟨ds, ⟨filled, all⟩, short, rfl, whole⟩

theorem digits_complete {most : Nat} {ds rest : List Char} (digits : IsDigits ds)
    (short : ds.length ≤ most) (stop : HeadNot Char.isDigit rest) :
    digits? most (ds ++ rest) = some (decimalValue ds, rest) := by
  unfold digits?
  rw [takeDigits_append digits.2 stop, List.take_of_length_le short, List.drop_of_length_le short]
  cases ds with
  | nil => exact (digits.1 rfl).elim
  | cons c ds => rfl

/-! ### Readers of phrases

Each reader has two lemmas: what it has read is a text of its phrase, and a text of its phrase is
read to its end if what follows cannot belong to it. -/

theorem number_sound {cs rest : List Char} {n : Nat} (read : number? cs = some (n, rest)) :
    ∃ text, AfterBlanks (NumberText · n) text ∧ cs = text ++ rest := by
  obtain ⟨blanks, blank, whole⟩ := exists_blanks cs
  obtain ⟨ds, digits, short, rfl, left⟩ := digits_sound read
  refine ⟨blanks ++ ds, ⟨blanks, ds, blank, .mk digits short, rfl⟩, ?_⟩
  rw [whole, left, List.append_assoc]

theorem number_complete {text rest : List Char} {n : Nat}
    (spelled : AfterBlanks (NumberText · n) text) (stop : HeadNot Char.isDigit rest) :
    number? (text ++ rest) = some (n, rest) := by
  obtain ⟨blanks, ds, blank, ⟨digits, short⟩, rfl⟩ := spelled
  unfold number?
  rw [List.append_assoc, skipBlanks_append blank (headNot_blank_of_digits digits rest)]
  exact digits_complete digits short stop

theorem separator_sound {c : Char} {cs rest : List Char} (read : separator? c cs = some rest) :
    ∃ text, AfterBlanks (· = [c]) text ∧ cs = text ++ rest := by
  obtain ⟨blanks, blank, whole⟩ := exists_blanks cs
  unfold separator? at read
  split at read
  · rename_i first more left
    split at read
    · rename_i same
      cases read
      subst same
      refine ⟨blanks ++ [first], ⟨blanks, [first], blank, rfl, rfl⟩, ?_⟩
      rw [whole, left, List.append_assoc]
      rfl
    · cases read
  · cases read

theorem separator_complete {c : Char} {text : List Char} (visible : isBlank c = false)
    (spelled : AfterBlanks (· = [c]) text) (rest : List Char) :
    separator? c (text ++ rest) = some rest := by
  obtain ⟨blanks, _, blank, rfl, rfl⟩ := spelled
  unfold separator?
  rw [List.append_assoc, List.singleton_append, skipBlanks_append blank (headNot_cons visible rest)]
  exact if_pos rfl

theorem year_sound {cs rest : List Char} {year : Int} (read : year? cs = some (year, rest)) :
    ∃ text, AfterBlanks (YearText · year) text ∧ cs = text ++ rest := by
  obtain ⟨blanks, blank, whole⟩ := exists_blanks cs
  unfold year? at read
  split at read
  · rename_i more left
    obtain ⟨⟨n, after⟩, found, same⟩ := Option.map_eq_some_iff.mp read
    cases same
    obtain ⟨ds, digits, _, rfl, rfl⟩ := digits_sound found
    refine ⟨blanks ++ '-' :: ds, ⟨blanks, _, blank, .behind digits, rfl⟩, ?_⟩
    rw [whole, left, List.append_assoc, List.cons_append]
  · rename_i more left
    obtain ⟨⟨n, after⟩, found, same⟩ := Option.map_eq_some_iff.mp read
    cases same
    obtain ⟨ds, digits, _, rfl, rfl⟩ := digits_sound found
    refine ⟨blanks ++ '+' :: ds, ⟨blanks, _, blank, .ahead digits, rfl⟩, ?_⟩
    rw [whole, left, List.append_assoc, List.cons_append]
  · obtain ⟨⟨n, after⟩, found, same⟩ := Option.map_eq_some_iff.mp read
    cases same
    obtain ⟨ds, digits, short, rfl, left⟩ := digits_sound found
    refine ⟨blanks ++ ds, ⟨blanks, ds, blank, .plain digits short, rfl⟩, ?_⟩
    rw [whole, left, List.append_assoc]

theorem year_complete {text rest : List Char} {year : Int}
    (spelled : AfterBlanks (YearText · year) text) (stop : HeadNot Char.isDigit rest) :
    year? (text ++ rest) = some (year, rest) := by
  obtain ⟨blanks, text, blank, spelled, rfl⟩ := spelled
  have fits : ∀ ds : List Char, ds.length ≤ (ds ++ rest).length := by simp
  unfold year?
  cases spelled with
  | plain digits short =>
    rw [List.append_assoc, skipBlanks_append blank (headNot_blank_of_digits digits rest)]
    obtain ⟨c, ds, rfl⟩ := List.exists_cons_of_ne_nil digits.1
    have digit := digits.2 c List.mem_cons_self
    split
    · rename_i found
      cases found
      cases digit
    · rename_i found
      cases found
      cases digit
    · rw [digits_complete digits short stop]
      rfl
  | ahead digits =>
    rw [List.append_assoc, List.cons_append, skipBlanks_append blank (headNot_cons (by decide) _)]
    exact congrArg (Option.map fun read => ((read.1 : Int), read.2))
      (digits_complete digits (fits _) stop)
  | behind digits =>
    rw [List.append_assoc, List.cons_append, skipBlanks_append blank (headNot_cons (by decide) _)]
    exact congrArg (Option.map fun read => (-(read.1 : Int), read.2))
      (digits_complete digits (fits _) stop)

theorem timeMark_eq_some_iff {cs rest : List Char} :
    timeMark? cs = some rest ↔
      ∃ mark, (mark = 'T' ∨ mark = 't' ∨ mark = ' ') ∧ cs = mark :: rest := by
  constructor
  · intro read
    unfold timeMark? at read
    split at read
    all_goals cases read
    · exact ⟨'T', Or.inl rfl, rfl⟩
    · exact ⟨'t', Or.inr (Or.inl rfl), rfl⟩
    · exact ⟨' ', Or.inr (Or.inr rfl), rfl⟩
  · rintro ⟨mark, rfl | rfl | rfl, rfl⟩
    · rfl
    · rfl
    · rfl

/-- Nine digits of a fraction count as nanoseconds, and more do not count. -/
theorem truncated {ds more : List Char} (short : ds.length ≤ 9)
    (digits : ∀ c ∈ more, c.isDigit = true) (full : ds.length = 9 ∨ more = []) :
    decimalValue (ds ++ more) * 10 ^ 9 / 10 ^ (ds ++ more).length =
      decimalValue ds * 10 ^ (9 - ds.length) := by
  rcases full with nine | rfl
  · have small : decimalValue more < 10 ^ more.length := decimalValue_lt digits
    rw [decimalValue_append, List.length_append, nine, Nat.pow_add, Nat.mul_comm (10 ^ 9),
      Nat.mul_div_mul_right _ _ (by decide), Nat.mul_add_div (Nat.pow_pos (by decide)),
      Nat.div_eq_of_lt small, Nat.add_zero, Nat.sub_self, Nat.pow_zero, Nat.mul_one]
  · have scale : 10 ^ 9 = 10 ^ (9 - ds.length) * 10 ^ ds.length := by
      rw [← Nat.pow_add, Nat.sub_add_cancel short]
    rw [List.append_nil, scale, ← Nat.mul_assoc, Nat.mul_div_cancel _ (Nat.pow_pos (by decide))]

theorem fraction_sound {cs rest : List Char} {nano : Nat}
    (read : fraction? cs = some (nano, rest)) :
    ∃ text, FractionText text nano ∧ cs = text ++ rest := by
  unfold fraction? at read
  split at read
  · split at read
    · cases read
    · rename_i ds after filled taken
      cases read
      obtain ⟨whole, short, all, stop⟩ := takeDigits_sound taken
      let more := after.takeWhile Char.isDigit
      have extra : ∀ c ∈ more, c.isDigit = true := List.all_eq_true.mp List.all_takeWhile
      have full : ds.length = 9 ∨ more = [] := by
        refine stop.imp_right fun none => ?_
        cases after with
        | nil => rfl
        | cons c after => simp [more, none c rfl]
      have digits : IsDigits (ds ++ more) :=
        ⟨by simpa using fun empty => (filled empty).elim, List.forall_mem_append.mpr ⟨all, extra⟩⟩
      refine ⟨'.' :: (ds ++ more), ?_, ?_⟩
      · have counted := FractionText.digits digits
        rw [truncated short extra full] at counted
        exact counted
      · rw [whole, List.cons_append, List.append_assoc, List.takeWhile_append_dropWhile]
  · cases read
    exact ⟨[], .absent, rfl⟩

theorem fraction_point {cs ds after : List Char} (taken : takeDigits 9 cs = (ds, after))
    (filled : ds ≠ []) :
    fraction? ('.' :: cs) =
      some (decimalValue ds * Nat.pow 10 (9 - ds.length), after.dropWhile Char.isDigit) := by
  obtain ⟨c, more, rfl⟩ := List.exists_cons_of_ne_nil filled
  simp [fraction?, taken]

theorem fraction_complete {text rest : List Char} {nano : Nat} (spelled : FractionText text nano)
    (stop : HeadNot Char.isDigit rest) (point : HeadNot (· == '.') rest) :
    fraction? (text ++ rest) = some (nano, rest) := by
  cases spelled with
  | absent =>
    rw [List.nil_append]
    unfold fraction?
    split
    · cases point '.' rfl
    · rfl
  | @digits ds digits =>
    have full : (ds.take 9).length = 9 ∨ ds.drop 9 = [] := by
      rw [List.length_take, List.drop_eq_nil_iff]
      omega
    have short : (ds.take 9).length ≤ 9 := List.length_take_le 9 ds
    have extra : ∀ c ∈ ds.drop 9, c.isDigit = true :=
      fun c member => digits.2 c (List.mem_of_mem_drop member)
    have counted := truncated short extra full
    rw [List.take_append_drop] at counted
    have dropped : (ds.drop 9 ++ rest).dropWhile Char.isDigit = rest := by
      rw [List.dropWhile_append_of_pos extra]
      exact dropWhile_of_head stop
    have taken : takeDigits 9 (ds ++ rest) = (ds.take 9, ds.drop 9 ++ rest) :=
      takeDigits_append digits.2 stop
    rw [List.cons_append, fraction_point taken (by simp [digits.1]), dropped, counted]
    rfl

theorem twoDigits_eq_some_iff {cs rest : List Char} {n : Nat} :
    twoDigits? cs = some (n, rest) ↔
      ∃ ds, TwoDigits ds ∧ n = decimalValue ds ∧ cs = ds ++ rest := by
  constructor
  · intro read
    unfold twoDigits? at read
    split at read
    · rename_i a b more
      split at read
      · rename_i digits
        cases read
        exact ⟨[a, b], ⟨rfl, by simpa using digits⟩, rfl, rfl⟩
      · cases read
    · cases read
  · rintro ⟨ds, ⟨two, digits⟩, rfl, rfl⟩
    match ds, two with
    | [a, b], _ =>
      have both : (a.isDigit && b.isDigit) = true := by simpa using digits
      exact if_pos both

theorem span_sound {cs rest : List Char} {n : Nat} (read : offsetMinutes? cs = some (n, rest)) :
    ∃ text, SpanText text n ∧ cs = text ++ rest := by
  unfold offsetMinutes? at read
  split at read
  · cases read
  · rename_i hours more first
    split at read
    · cases read
    · rename_i minutes after second
      split at read
      · rename_i under
        cases read
        obtain ⟨hs, hour, rfl, rfl⟩ := twoDigits_eq_some_iff.mp first
        obtain ⟨ms, minute, rfl, left⟩ := twoDigits_eq_some_iff.mp second
        let gap := more.takeWhile fun c => c == ':' || isBlank c
        have between : ∀ c ∈ gap, c = ':' ∨ isBlank c = true := by
          intro c member
          have held := List.all_eq_true.mp List.all_takeWhile c member
          simpa using held
        refine ⟨hs ++ (gap ++ ms), .mk hour between minute under, ?_⟩
        rw [List.append_assoc, List.append_assoc, ← left, List.takeWhile_append_dropWhile]
      · cases read

theorem span_complete {text : List Char} {n : Nat} (spelled : SpanText text n)
    (rest : List Char) : offsetMinutes? (text ++ rest) = some (n, rest) := by
  obtain @⟨hours, gap, minutes, hour, between, minute, under⟩ := spelled
  have first : twoDigits? (hours ++ (gap ++ (minutes ++ rest))) =
      some (decimalValue hours, gap ++ (minutes ++ rest)) :=
    twoDigits_eq_some_iff.mpr ⟨hours, hour, rfl, rfl⟩
  have second : twoDigits? (minutes ++ rest) = some (decimalValue minutes, rest) :=
    twoDigits_eq_some_iff.mpr ⟨minutes, minute, rfl, rfl⟩
  have gone : (gap ++ (minutes ++ rest)).dropWhile (fun c => c == ':' || isBlank c) =
      minutes ++ rest := by
    rw [List.dropWhile_append_of_pos (by simpa using between)]
    match minutes, minute with
    | [a, b], ⟨_, digits⟩ =>
      have digit : a.isDigit = true := digits a List.mem_cons_self
      have visible := isDigit_not_blank digit
      have other : a ≠ ':' := by rintro rfl; cases digit
      simp [visible, other]
  unfold offsetMinutes?
  rw [List.append_assoc, List.append_assoc, first]
  dsimp only
  rw [gone, second]
  exact if_pos under

theorem offset_sound {cs rest : List Char} {offset : Int}
    (read : offset? cs = some (offset, rest)) :
    ∃ text, OffsetText text offset ∧ cs = text ++ rest := by
  unfold offset? at read
  split at read
  · cases read
    exact ⟨['Z'], .zulu (Or.inl rfl), rfl⟩
  · cases read
    exact ⟨['z'], .zulu (Or.inr rfl), rfl⟩
  · obtain ⟨⟨n, after⟩, found, same⟩ := Option.map_eq_some_iff.mp read
    cases same
    obtain ⟨text, span, rfl⟩ := span_sound found
    exact ⟨'+' :: text, .ahead span, rfl⟩
  · obtain ⟨⟨n, after⟩, found, same⟩ := Option.map_eq_some_iff.mp read
    cases same
    obtain ⟨text, span, rfl⟩ := span_sound found
    exact ⟨'-' :: text, .behind (Or.inl rfl) span, rfl⟩
  · obtain ⟨⟨n, after⟩, found, same⟩ := Option.map_eq_some_iff.mp read
    cases same
    obtain ⟨text, span, rfl⟩ := span_sound found
    exact ⟨'−' :: text, .behind (Or.inr rfl) span, rfl⟩
  · split at read
    · rename_i letters
      cases read
      exact ⟨cs.take 3, .utc letters, (List.take_append_drop 3 cs).symm⟩
    · cases read

theorem offset_complete {text : List Char} {offset : Int} (spelled : OffsetText text offset) :
    offset? text = some (offset, []) := by
  cases spelled with
  | zulu letter =>
    rcases letter with rfl | rfl
    · rfl
    · rfl
  | utc letters =>
    have three : text.length = 3 := by simpa using congrArg List.length letters
    match text, three with
    | [a, b, c], _ =>
      have first : a.toLower = 'u' := (List.cons.inj letters).1
      -- None of the other offsets starts with this letter.
      unfold offset?
      split
      case h_6 => exact if_pos letters
      all_goals
        rename_i same
        cases same
        exact absurd first (by decide)
  | ahead span =>
    have read := span_complete span []
    rw [List.append_nil] at read
    simp [offset?, read]
  | behind minus span =>
    have read := span_complete span []
    rw [List.append_nil] at read
    rcases minus with rfl | rfl
    · simp [offset?, read]
    · simp [offset?, read]

/-! ### Whole timestamps -/

theorem reading_sound {cs : List Char} {r : Reading} (read : reading? cs = some r) :
    TimestampText cs r := by
  unfold reading? at read
  obtain ⟨⟨year, cs₁⟩, isYear, read⟩ := Option.bind_eq_some_iff.mp read
  obtain ⟨cs₂, first, read⟩ := Option.bind_eq_some_iff.mp read
  obtain ⟨⟨month, cs₃⟩, isMonth, read⟩ := Option.bind_eq_some_iff.mp read
  obtain ⟨cs₄, next, read⟩ := Option.bind_eq_some_iff.mp read
  obtain ⟨⟨day, cs₅⟩, isDay, read⟩ := Option.bind_eq_some_iff.mp read
  obtain ⟨cs₆, between, read⟩ := Option.bind_eq_some_iff.mp read
  obtain ⟨⟨hour, cs₇⟩, isHour, read⟩ := Option.bind_eq_some_iff.mp read
  obtain ⟨cs₈, third, read⟩ := Option.bind_eq_some_iff.mp read
  obtain ⟨⟨minute, cs₉⟩, isMinute, read⟩ := Option.bind_eq_some_iff.mp read
  obtain ⟨cs₁₀, last, read⟩ := Option.bind_eq_some_iff.mp read
  obtain ⟨⟨second, cs₁₁⟩, isSecond, read⟩ := Option.bind_eq_some_iff.mp read
  obtain ⟨⟨nano, cs₁₂⟩, isFraction, read⟩ := Option.bind_eq_some_iff.mp read
  obtain ⟨⟨offset, cs₁₃⟩, isOffset, read⟩ := Option.bind_eq_some_iff.mp read
  dsimp only at *
  split at read
  · rename_i finished
    cases read
    obtain rfl : cs₁₃ = [] := List.isEmpty_iff.mp finished
    obtain ⟨_, yearText, rfl⟩ := year_sound isYear
    obtain ⟨_, firstDash, rfl⟩ := separator_sound first
    obtain ⟨_, monthText, rfl⟩ := number_sound isMonth
    obtain ⟨_, nextDash, rfl⟩ := separator_sound next
    obtain ⟨_, dayText, rfl⟩ := number_sound isDay
    obtain ⟨_, mark, rfl⟩ := timeMark_eq_some_iff.mp between
    obtain ⟨_, hourText, rfl⟩ := number_sound isHour
    obtain ⟨_, firstColon, rfl⟩ := separator_sound third
    obtain ⟨_, minuteText, rfl⟩ := number_sound isMinute
    obtain ⟨_, lastColon, rfl⟩ := separator_sound last
    obtain ⟨_, secondText, rfl⟩ := number_sound isSecond
    obtain ⟨_, fractionText, rfl⟩ := fraction_sound isFraction
    obtain ⟨blanks, blank, whole⟩ := exists_blanks cs₁₂
    obtain ⟨text, offsetText, left⟩ := offset_sound isOffset
    rw [left, List.append_nil] at whole
    exact .mk yearText firstDash monthText nextDash dayText mark hourText firstColon minuteText
      lastColon secondText fractionText ⟨blanks, text, blank, offsetText, whole⟩
  · cases read

theorem eq_of_toLower {a : Char} (letter : a.toLower = 'u') : a = 'u' ∨ a = 'U' := by
  unfold Char.toLower at letter
  split at letter
  · have code : a.val + 32 = 85 + 32 := congrArg Char.val letter
    exact Or.inr (Char.ext ((UInt32.add_left_inj 32).mp code))
  · exact Or.inl letter

theorem offset_head {text : List Char} {offset : Int} (spelled : OffsetText text offset) :
    ∃ c more, text = c :: more ∧ c.isDigit = false ∧ (c == '.') = false ∧ isBlank c = false := by
  cases spelled with
  | zulu letter =>
    rcases letter with rfl | rfl
    · exact ⟨'Z', [], rfl, by decide⟩
    · exact ⟨'z', [], rfl, by decide⟩
  | utc letters =>
    have three : text.length = 3 := by simpa using congrArg List.length letters
    match text, three with
    | [a, b, c], _ =>
      rcases eq_of_toLower (List.cons.inj letters).1 with rfl | rfl
      · exact ⟨'u', [b, c], rfl, by decide⟩
      · exact ⟨'U', [b, c], rfl, by decide⟩
  | ahead => exact ⟨'+', _, rfl, by decide⟩
  | behind minus =>
    rcases minus with rfl | rfl
    · exact ⟨'-', _, rfl, by decide⟩
    · exact ⟨'−', _, rfl, by decide⟩

theorem point_not_blank {c : Char} (blank : isBlank c = true) : (c == '.') = false := by
  rw [beq_eq_false_iff_ne]
  rintro rfl
  cases blank

/-- No number goes on in a separator. -/
theorem headNot_separator {c : Char} {text : List Char} (other : c.isDigit = false)
    (spelled : AfterBlanks (· = [c]) text) (rest : List Char) :
    HeadNot Char.isDigit (text ++ rest) :=
  headNot_afterBlanks (fun _ => not_isDigit_of_blank)
    (fun _ same => ⟨c, [], same, other⟩) spelled rest

theorem headNot_fraction {text rest : List Char} {nano : Nat} (spelled : FractionText text nano)
    (stop : HeadNot Char.isDigit rest) : HeadNot Char.isDigit (text ++ rest) := by
  cases spelled with
  | absent => exact stop
  | digits => exact headNot_cons (by decide) _

theorem reading_complete {cs : List Char} {r : Reading} (spelled : TimestampText cs r) :
    reading? cs = some r := by
  obtain @⟨year, dash, month, dash', day, hour, colon, minute, colon', second, fraction, offset,
    mark, r, isYear, first, isMonth, next, isDay, between, isHour, third, isMinute, last, isSecond,
    isFraction, isOffset⟩ := spelled
  have ends : HeadNot Char.isDigit offset := by
    simpa using headNot_afterBlanks (fun _ => not_isDigit_of_blank)
      (fun _ zone => have ⟨c, more, same, digit, _⟩ := offset_head zone; ⟨c, more, same, digit⟩)
      isOffset []
  have pointless : HeadNot (· == '.') offset := by
    simpa using headNot_afterBlanks (fun _ => point_not_blank)
      (fun _ zone => have ⟨c, more, same, _, point, _⟩ := offset_head zone; ⟨c, more, same, point⟩)
      isOffset []
  have fractional := headNot_fraction isFraction ends
  have marked : mark.isDigit = false := by
    rcases between with rfl | rfl | rfl
    all_goals decide
  have zoned : offset? (skipBlanks offset) = some (r.offset, []) := by
    obtain ⟨blanks, zone, blank, isZone, rfl⟩ := isOffset
    have ⟨c, more, same, _, _, visible⟩ := offset_head isZone
    rw [skipBlanks_append blank (by rw [same]; exact headNot_cons visible more)]
    exact offset_complete isZone
  unfold reading?
  simp only [Option.bind_eq_bind, Option.bind_some,
    year_complete isYear (headNot_separator (by decide) first _),
    separator_complete (by decide) first,
    number_complete isMonth (headNot_separator (by decide) next _),
    separator_complete (by decide) next, number_complete isDay (headNot_cons marked _),
    timeMark_eq_some_iff.mpr ⟨mark, between, rfl⟩,
    number_complete isHour (headNot_separator (by decide) third _),
    separator_complete (by decide) third,
    number_complete isMinute (headNot_separator (by decide) last _),
    separator_complete (by decide) last, number_complete isSecond fractional,
    fraction_complete isFraction ends pointless, zoned]
  rfl

theorem reading_eq_some_iff {cs : List Char} {r : Reading} :
    reading? cs = some r ↔ TimestampText cs r :=
  ⟨reading_sound, reading_complete⟩

end Folio.Time
