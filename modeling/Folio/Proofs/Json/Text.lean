import Folio.Json.Reader
import Folio.Json.Writer
import Folio.Proofs.Text.Digits
import Folio.Proofs.Uuid

/-!
# Values written as text and read back

`parse_render`: a value without floating point numbers, whose integers have 64 bits and whose
members are in order, is read from its text as it was.
-/

namespace Folio.Json

open Text

/-- The characters of a value as it is written. -/
def chars (value : Json) : List Char :=
  (render value).toList

/-! ### Strings -/

theorem escapedUnit_control {c : Char} (control : c.toNat < 0x20) (rest : List Char) :
    escapedUnit? ('0' :: '0' :: hexDigit (c.toNat / 16) :: hexDigit (c.toNat % 16) :: rest) =
      some (c, rest) := by
  have high := hexValue_hexDigit (show c.toNat / 16 < 16 by omega)
  have low := hexValue_hexDigit (show c.toNat % 16 < 16 by omega)
  have zero : hexValue? '0' = some 0 := rfl
  have code : ((0 * 16 + 0) * 16 + c.toNat / 16) * 16 + c.toNat % 16 = c.toNat := by omega
  have digits : unit? ('0' :: '0' :: hexDigit (c.toNat / 16) :: hexDigit (c.toNat % 16) :: rest) =
      some (c.toNat, rest) := by
    unfold unit?
    dsimp only
    rw [zero, high, low]
    show some (_, rest) = _
    rw [code]
  have low : ¬0xd800 ≤ c.toNat := by omega
  have lower : ¬0xdc00 ≤ c.toNat := by omega
  unfold escapedUnit?
  rw [digits]
  simp [low, lower]

theorem stringBody_escapeChar (c : Char) (fuel : Nat) (done rest : List Char) :
    stringBody? (fuel + 1) done (escapeChar c ++ rest) = stringBody? fuel (c :: done) rest := by
  by_cases named : c ∈ ['"', '\\', '\n', '\r', '\t', Char.ofNat 8, Char.ofNat 12]
  · simp only [List.mem_cons, List.not_mem_nil, or_false] at named
    rcases named with rfl | rfl | rfl | rfl | rfl | rfl | rfl
    all_goals rfl
  · have code : ∀ n, c.toNat = n → c = Char.ofNat n := by
      rintro n rfl
      exact (Char.ofNat_toNat c).symm
    have coded : c.toNat ≠ 8 ∧ c.toNat ≠ 12 := by
      constructor
      · intro same
        simp [code 8 same] at named
      · intro same
        simp [code 12 same] at named
    simp only [List.mem_cons, List.not_mem_nil, or_false, not_or] at named
    obtain ⟨quote, backslash, newline, carriage, tab, _, _⟩ := named
    by_cases control : c.toNat < 0x20
    · have escaped : escapeChar c =
          ['\\', 'u', '0', '0', hexDigit (c.toNat / 16), hexDigit (c.toNat % 16)] := by
        simp [escapeChar, quote, backslash, newline, carriage, tab, coded, control]
      rw [escaped]
      simp [stringBody?, escapedUnit_control control]
    · have plain : escapeChar c = [c] := by
        simp [escapeChar, quote, backslash, newline, carriage, tab, coded, control]
      rw [plain]
      simp [stringBody?, quote, backslash, control]

theorem stringBody_escaped {cs : List Char} {fuel : Nat} (enough : cs.length < fuel)
    (done rest : List Char) :
    stringBody? fuel done (cs.flatMap escapeChar ++ '"' :: rest) =
      some (String.ofList (done.reverse ++ cs), rest) := by
  induction cs generalizing fuel done with
  | nil =>
    obtain ⟨fuel, rfl⟩ := Nat.exists_eq_succ_of_ne_zero (Nat.ne_of_gt enough)
    simp [stringBody?]
  | cons c cs ih =>
    obtain ⟨fuel, rfl⟩ := Nat.exists_eq_succ_of_ne_zero (Nat.ne_of_gt (Nat.zero_lt_of_lt enough))
    rw [List.flatMap_cons, List.append_assoc, stringBody_escapeChar,
      ih (Nat.lt_of_succ_lt_succ enough)]
    simp

theorem length_le_escaped (cs : List Char) : cs.length ≤ (cs.flatMap escapeChar).length := by
  induction cs with
  | nil => simp
  | cons c cs ih =>
    have filled : 0 < (escapeChar c).length := by
      unfold escapeChar
      repeat' split
      all_goals simp
    rw [List.flatMap_cons, List.length_append, List.length_cons]
    omega

theorem toList_renderString (s : String) :
    (renderString s).toList = '"' :: (s.toList.flatMap escapeChar ++ ['"']) := by
  simp [renderString]

theorem stringBody_renderString (s : String) (rest : List Char) :
    stringBody? ((s.toList.flatMap escapeChar ++ '"' :: rest).length + 1) []
      (s.toList.flatMap escapeChar ++ '"' :: rest) = some (s, rest) := by
  have length := length_le_escaped s.toList
  rw [stringBody_escaped (by rw [List.length_append, List.length_cons]; omega)]
  simp

/-! ### Numbers -/

/-- Whether a character could go on with a number. -/
def isNumeral (c : Char) : Bool :=
  c.isDigit || c == '.' || c == 'e' || c == 'E'

theorem exponentPart_of_stop {rest : List Char} (stop : HeadNot isNumeral rest) :
    exponentPart rest = some (none, rest) := by
  cases rest with
  | nil => rfl
  | cons c rest =>
    have other := stop c rfl
    simp only [isNumeral, Bool.or_eq_false_iff] at other
    simp [exponentPart, other]

theorem canonical_toDigits (n : Nat) :
    ((Nat.toDigits 10 n).isEmpty || (Nat.toDigits 10 n).head? == some '0' &&
      decide ((Nat.toDigits 10 n).length > 1)) = false := by
  have filled : (Nat.toDigits 10 n).isEmpty = false := by simp [Nat.toDigits_ne_nil]
  rw [filled, Bool.false_or, Bool.and_eq_false_iff]
  by_cases positive : 0 < n
  · exact .inl (beq_false_of_ne (head_toDigits positive))
  · obtain rfl : n = 0 := by omega
    exact .inr rfl

theorem number_toDigits {rest : List Char} (stop : HeadNot isNumeral rest) (negative : Bool)
    (n : Nat) :
    number? ((if negative then ['-'] else []) ++ (Nat.toDigits 10 n ++ rest)) =
      some (integer negative n, rest) := by
  have digits : ∀ c ∈ Nat.toDigits 10 n, c.isDigit = true := fun c =>
    Nat.isDigit_of_mem_toDigits (by decide) (by decide)
  have stopped : HeadNot Char.isDigit rest := by
    intro c first
    have other := stop c first
    simp only [isNumeral, Bool.or_eq_false_iff] at other
    exact other.1.1.1
  obtain ⟨taken, left⟩ := span_digits digits stopped
  have value : decimalValue (Nat.toDigits 10 n) = n := by
    rw [decimalValue_eq, Nat.ofDigitChars_ten_toDigits]
  unfold number?
  split
  rename_i sign cs shape
  -- The sign is a sign: no digits start with one.
  have signed : sign = negative ∧ cs = Nat.toDigits 10 n ++ rest := by
    cases negative with
    | true =>
      cases shape
      exact ⟨rfl, rfl⟩
    | false =>
      rw [if_neg Bool.false_ne_true, List.nil_append] at shape
      split at shape
      · rename_i more minus
        have first : '-' ∈ Nat.toDigits 10 n := by
          cases shown : Nat.toDigits 10 n with
          | nil => exact (Nat.toDigits_ne_nil shown).elim
          | cons d ds =>
            rw [shown] at minus
            cases minus
            exact List.mem_cons_self
        cases digits '-' first
      · cases shape
        exact ⟨rfl, rfl⟩
  obtain ⟨rfl, rfl⟩ := signed
  dsimp only
  rw [taken, left, canonical_toDigits]
  split
  · contradiction
  split
  · rename_i point
    split at point
    · cases stop '.' rfl
    · cases point
  · rename_i point
    split at point
    · cases stop '.' rfl
    · cases point
      rw [exponentPart_of_stop stop, value]

/-- The integers that are read as integers: those of 64 bits, with or without a sign. -/
def InRange (n : Int) : Prop :=
  -9223372036854775808 ≤ n ∧ n < 18446744073709551616

theorem integer_natAbs {n : Int} (range : InRange n) :
    integer (decide (n < 0)) n.natAbs = .int n := by
  obtain ⟨low, high⟩ := range
  unfold integer
  by_cases negative : n < 0
  · have filled : (n.natAbs == 0) = false := beq_false_of_ne (by omega)
    have small : n.natAbs ≤ 9223372036854775808 := by omega
    have value : -(n.natAbs : Int) = n := by omega
    rw [if_pos (decide_eq_true negative), filled, if_neg Bool.false_ne_true, if_pos small, value]
  · have small : n.natAbs < 18446744073709551616 := by omega
    have value : (n.natAbs : Int) = n := by omega
    rw [if_neg (by simp [negative]), if_pos small, value]

theorem chars_int (n : Int) :
    chars (.int n) =
      (if decide (n < 0) then ['-'] else []) ++ Nat.toDigits 10 n.natAbs := by
  rw [chars, render, Int.toString_eq_repr, Int.repr_eq_if]
  by_cases negative : n < 0
  · have size : (-n).toNat = n.natAbs := by omega
    simp [negative, Nat.repr_eq_ofList_toDigits, size, Int.not_le.mpr negative]
  · have size : n.toNat = n.natAbs := by omega
    simp [negative, Nat.repr_eq_ofList_toDigits, size, Int.not_lt.mp negative]

/-- The text of an integer starts with a sign or a digit. -/
theorem head_chars_int (n : Int) :
    ∃ c cs, chars (.int n) = c :: cs ∧ (c = '-' ∨ c.isDigit = true) := by
  rw [chars_int]
  by_cases negative : n < 0
  · simp [negative]
  · cases digits : Nat.toDigits 10 n.natAbs with
    | nil => exact (Nat.toDigits_ne_nil digits).elim
    | cons d ds =>
      have member : d ∈ Nat.toDigits 10 n.natAbs := digits ▸ List.mem_cons_self
      have digit := Nat.isDigit_of_mem_toDigits (by decide) (by decide) member
      exact ⟨d, ds, by simp [negative], .inr digit⟩

theorem not_isSpace_of_numeral {c : Char} (first : c = '-' ∨ c.isDigit = true) :
    isSpace c = false := by
  cases space : isSpace c with
  | false => rfl
  | true =>
    simp only [isSpace, Bool.or_eq_true, beq_iff_eq] at space
    rcases space with ((rfl | rfl) | rfl) | rfl
    all_goals simp at first

/-! ### Lists in brackets -/

/-- What follows the first of some texts up to a closing bracket. -/
def following (close : Char) : List (List Char) → List Char
  | [] => [close]
  | text :: rest => ',' :: (text ++ following close rest)

theorem intercalate_append (close : Char) (text : List Char) (rest : List (List Char)) :
    [','].intercalate (text :: rest) ++ [close] = text ++ following close rest := by
  induction rest generalizing text with
  | nil => simp [following]
  | cons next rest ih =>
    rw [List.intercalate_cons_cons, following, List.append_assoc, ih]
    simp

theorem headNot_following {p : Char → Bool} (close : Char) (comma : p ',' = false)
    (closed : p close = false) (texts : List (List Char)) (rest : List Char) :
    HeadNot p (following close texts ++ rest) := by
  cases texts with
  | nil => exact headNot_cons closed _
  | cons text texts => exact headNot_cons comma _

/-- A member as it is written. -/
def memberChars (member : String × Json) : List Char :=
  (renderString member.1).toList ++ ':' :: chars member.2

theorem renderItems_eq (items : List Json) :
    (renderItems items).map String.toList = items.map chars := by
  induction items with
  | nil => rfl
  | cons item items ih =>
    rw [renderItems, List.map_cons, List.map_cons, ih]
    rfl

theorem renderMembers_eq (members : List (String × Json)) :
    (renderMembers members).map String.toList = members.map memberChars := by
  induction members with
  | nil => rfl
  | cons member members ih =>
    rw [renderMembers, List.map_cons, List.map_cons, ih]
    simp [memberChars, chars]

theorem chars_arr (item : Json) (items : List Json) :
    chars (.arr (item :: items)) =
      '[' :: (chars item ++ following ']' (items.map chars)) := by
  rw [← intercalate_append, ← List.map_cons, ← renderItems_eq, chars, render]
  simp

theorem chars_obj (member : String × Json) (members : List (String × Json)) :
    chars (.obj (member :: members)) =
      '\x7b' :: (memberChars member ++ following '\x7d' (members.map memberChars)) := by
  rw [← intercalate_append, ← List.map_cons, ← renderMembers_eq, chars, render]
  simp

/-! ### Values -/

/-- A value is read from its text, whatever else follows that does not go on with a number. The
reader is given two units of fuel for each character. -/
def Reads (value : Json) : Prop :=
  ∀ fuel rest, 2 * (chars value).length ≤ fuel → HeadNot isNumeral rest →
    value? fuel (chars value ++ rest) = some (value, rest)

theorem reads_str (text : String) : Reads (.str text) := by
  intro fuel rest enough _
  have shown : chars (.str text) = '"' :: (text.toList.flatMap escapeChar ++ ['"']) := by
    rw [chars, render, toList_renderString]
  rw [shown] at enough ⊢
  cases fuel with
  | zero => simp at enough
  | succ fuel =>
    rw [List.cons_append, List.append_assoc, List.cons_append, List.nil_append]
    show (stringBody? (_ + 1) [] _).map _ = _
    rw [stringBody_renderString]
    rfl

theorem value_numeral {c : Char} (first : c = '-' ∨ c.isDigit = true) (fuel : Nat)
    (cs : List Char) : value? (fuel + 1) (c :: cs) = number? (c :: cs) := by
  unfold value?
  rw [List.dropWhile_cons_of_neg (by simp [not_isSpace_of_numeral first])]
  split
  case h_7 => rfl
  all_goals
    rename_i same
    cases same
    simp at first

theorem reads_int {n : Int} (range : InRange n) : Reads (.int n) := by
  intro fuel rest enough stop
  have number := number_toDigits stop (decide (n < 0)) n.natAbs
  rw [integer_natAbs range, ← List.append_assoc, ← chars_int] at number
  obtain ⟨c, cs, shown, first⟩ := head_chars_int n
  rw [shown] at enough number ⊢
  cases fuel with
  | zero => simp at enough
  | succ fuel =>
    rw [List.cons_append, value_numeral first]
    exact number

theorem items_following {item : Json} {items : List Json} (reads : ∀ i ∈ item :: items, Reads i)
    (fuel : Nat) (rest : List Char)
    (enough : 2 * (chars item ++ following ']' (items.map chars)).length ≤ fuel) :
    items? fuel (chars item ++ (following ']' (items.map chars) ++ rest)) =
      some (item :: items, rest) := by
  induction items generalizing item fuel with
  | nil =>
    rw [List.length_append] at enough
    simp only [List.map_nil, following, List.length_singleton] at enough
    obtain ⟨fuel, rfl⟩ : ∃ left, fuel = left + 1 := ⟨fuel - 1, by omega⟩
    have first := reads item List.mem_cons_self fuel _ (by omega)
      (headNot_following ']' rfl rfl [] rest)
    unfold items?
    rw [List.map_nil, first]
    rfl
  | cons next items ih =>
    rw [List.length_append, List.map_cons, following, List.length_cons] at enough
    obtain ⟨fuel, rfl⟩ : ∃ left, fuel = left + 1 := ⟨fuel - 1, by omega⟩
    have first := reads item List.mem_cons_self fuel _ (by omega)
      (headNot_following ']' rfl rfl (chars next :: items.map chars) rest)
    have later : items? fuel (chars next ++ (following ']' (items.map chars) ++ rest)) =
        some (next :: items, rest) :=
      ih (fun i member => reads i (List.mem_cons_of_mem _ member)) fuel (by omega)
    unfold items?
    rw [List.map_cons, first]
    show (items? fuel (chars next ++ following ']' (items.map chars) ++ rest)).map _ = _
    rw [List.append_assoc, later]
    rfl

theorem memberChars_append (name : String) (value : Json) (tail : List Char) :
    memberChars (name, value) ++ tail =
      '"' :: (name.toList.flatMap escapeChar ++ '"' :: ':' :: (chars value ++ tail)) := by
  simp [memberChars, toList_renderString]

theorem members_comma {name : String} {value : Json} {fuel : Nat} {tail : List Char}
    (read : value? fuel (chars value ++ ',' :: tail) = some (value, ',' :: tail)) :
    members? (fuel + 1) (memberChars (name, value) ++ ',' :: tail) =
      (members? fuel tail).map fun later => ((name, value) :: later.1, later.2) := by
  have quote : ∀ cs, ('"' :: cs).dropWhile isSpace = '"' :: cs := fun _ => rfl
  have colon : ∀ cs, (':' :: cs).dropWhile isSpace = ':' :: cs := fun _ => rfl
  have comma : ∀ cs, (',' :: cs).dropWhile isSpace = ',' :: cs := fun _ => rfl
  rw [memberChars_append, members?]
  simp only [quote, stringBody_renderString, colon, read, comma]

theorem members_close {name : String} {value : Json} {fuel : Nat} {tail : List Char}
    (read : value? fuel (chars value ++ '\x7d' :: tail) = some (value, '\x7d' :: tail)) :
    members? (fuel + 1) (memberChars (name, value) ++ '\x7d' :: tail) =
      some ([(name, value)], tail) := by
  have quote : ∀ cs, ('"' :: cs).dropWhile isSpace = '"' :: cs := fun _ => rfl
  have colon : ∀ cs, (':' :: cs).dropWhile isSpace = ':' :: cs := fun _ => rfl
  have brace : ∀ cs, ('\x7d' :: cs).dropWhile isSpace = '\x7d' :: cs := fun _ => rfl
  rw [memberChars_append, members?]
  simp only [quote, stringBody_renderString, colon, read, brace]

theorem members_following {member : String × Json} {members : List (String × Json)}
    (reads : ∀ m ∈ member :: members, Reads m.2) (fuel : Nat) (rest : List Char)
    (enough : 2 * (memberChars member ++
      following '\x7d' (members.map memberChars)).length ≤ fuel) :
    members? fuel (memberChars member ++ (following '\x7d' (members.map memberChars) ++ rest)) =
      some (member :: members, rest) := by
  have longer : ∀ m : String × Json, (chars m.2).length ≤ (memberChars m).length := by
    intro m
    simp [memberChars]
    omega
  have shorter := longer member
  induction members generalizing member fuel with
  | nil =>
    rw [List.length_append] at enough
    simp only [List.map_nil, following, List.length_singleton] at enough
    obtain ⟨fuel, rfl⟩ : ∃ left, fuel = left + 1 := ⟨fuel - 1, by omega⟩
    have first := reads member List.mem_cons_self fuel _ (by omega)
      (headNot_following '\x7d' rfl rfl [] rest)
    exact members_close first
  | cons next members ih =>
    rw [List.length_append, List.map_cons, following, List.length_cons] at enough
    obtain ⟨fuel, rfl⟩ : ∃ left, fuel = left + 1 := ⟨fuel - 1, by omega⟩
    have first := reads member List.mem_cons_self fuel _ (by omega)
      (headNot_following '\x7d' rfl rfl (memberChars next :: members.map memberChars) rest)
    have later : members? fuel
          (memberChars next ++ (following '\x7d' (members.map memberChars) ++ rest)) =
        some (next :: members, rest) :=
      ih (fun m member => reads m (List.mem_cons_of_mem _ member)) fuel (by omega) (longer next)
    refine (members_comma first).trans ?_
    show (members? fuel (memberChars next ++ following '\x7d' (members.map memberChars) ++
      rest)).map _ = _
    rw [List.append_assoc, later]
    rfl

/-! ### Order of members -/

theorem insertMember_last {name : String} {members : List (String × Json)}
    (below : ∀ member ∈ members, member.1 < name) (value : Json) :
    insertMember name value members = members ++ [(name, value)] := by
  induction members with
  | nil => rfl
  | cons member members ih =>
    have first := below member List.mem_cons_self
    have after : ¬name < member.1 := fun less => String.lt_irrefl _ (String.lt_trans first less)
    have other : name ≠ member.1 := by
      rintro rfl
      exact String.lt_irrefl _ first
    rw [insertMember, if_neg after, if_neg (by simpa using other),
      ih fun m member => below m (List.mem_cons_of_mem _ member)]
    rfl

theorem object_of_sorted {members : List (String × Json)}
    (sorted : members.Pairwise fun a b => a.1 < b.1) : object members = .obj members := by
  have grown : ∀ before : List (String × Json),
      (before ++ members).Pairwise (fun a b => a.1 < b.1) →
      members.foldl (fun sorted member => insertMember member.1 member.2 sorted) before =
        before ++ members := by
    clear sorted
    induction members with
    | nil => simp
    | cons member members ih =>
      intro before sorted
      have below : ∀ earlier ∈ before, earlier.1 < member.1 := by
        intro earlier present
        exact (List.pairwise_append.mp sorted).2.2 earlier present member List.mem_cons_self
      rw [List.foldl_cons, insertMember_last below, ih _ (by simpa using sorted)]
      simp
  exact congrArg obj (grown [] sorted)

/-- Values that text brings back: integers in range, members in the order of their names, and no
floating point numbers. -/
inductive Exact : Json → Prop where
  | null : Exact .null
  | bool (truth : Bool) : Exact (.bool truth)
  | int {n : Int} (range : InRange n) : Exact (.int n)
  | str (text : String) : Exact (.str text)
  | arr {items : List Json} (exact : ∀ item ∈ items, Exact item) : Exact (.arr items)
  | obj {members : List (String × Json)} (sorted : members.Pairwise fun a b => a.1 < b.1)
      (exact : ∀ member ∈ members, Exact member.2) : Exact (.obj members)

/-- The text of a value starts with no space and with no bracket that closes. -/
theorem Exact.head_chars {value : Json} (exact : Exact value) :
    ∃ c cs, chars value = c :: cs ∧ isSpace c = false ∧ c ≠ ']' := by
  cases exact with
  | null => exact ⟨_, _, rfl, rfl, by decide⟩
  | bool truth =>
    cases truth with
    | true => exact ⟨_, _, rfl, rfl, by decide⟩
    | false => exact ⟨_, _, rfl, rfl, by decide⟩
  | int range =>
    obtain ⟨c, cs, shown, first⟩ := head_chars_int _
    refine ⟨c, cs, shown, not_isSpace_of_numeral first, ?_⟩
    rintro rfl
    simp at first
  | str text => exact ⟨'"', _, by rw [chars, render, toList_renderString], rfl, by decide⟩
  | @arr items _ =>
    cases items with
    | nil => exact ⟨_, _, rfl, rfl, by decide⟩
    | cons item items => exact ⟨_, _, chars_arr item items, rfl, by decide⟩
  | @obj members _ _ =>
    cases members with
    | nil => exact ⟨_, _, rfl, rfl, by decide⟩
    | cons member members => exact ⟨_, _, chars_obj member members, rfl, by decide⟩

theorem reads_arr {items : List Json} (exact : ∀ item ∈ items, Exact item)
    (reads : ∀ item ∈ items, Reads item) : Reads (.arr items) := by
  intro fuel rest enough _
  cases items with
  | nil =>
    cases fuel with
    | zero => cases enough
    | succ fuel => rfl
  | cons item items =>
    rw [chars_arr] at enough ⊢
    rw [List.length_cons] at enough
    obtain ⟨fuel, rfl⟩ : ∃ left, fuel = left + 1 := ⟨fuel - 1, by omega⟩
    have read := items_following reads fuel rest (by omega)
    obtain ⟨c, cs, shown, solid, inside⟩ := (exact item List.mem_cons_self).head_chars
    rw [shown, List.cons_append] at read
    have bracket : ∀ cs, ('[' :: cs).dropWhile isSpace = '[' :: cs := fun _ => rfl
    have first : ∀ cs, (c :: cs).dropWhile isSpace = c :: cs :=
      fun _ => List.dropWhile_cons_of_neg (by simp [solid])
    rw [List.cons_append, List.append_assoc, shown, value?]
    simp only [bracket, List.cons_append, first]
    split
    · rename_i same
      cases same
      exact (inside rfl).elim
    · rw [read]
      rfl

theorem reads_obj {members : List (String × Json)}
    (sorted : members.Pairwise fun a b => a.1 < b.1)
    (reads : ∀ member ∈ members, Reads member.2) : Reads (.obj members) := by
  intro fuel rest enough _
  cases members with
  | nil =>
    cases fuel with
    | zero => cases enough
    | succ fuel => rfl
  | cons member members =>
    rw [chars_obj] at enough ⊢
    rw [List.length_cons] at enough
    obtain ⟨fuel, rfl⟩ : ∃ left, fuel = left + 1 := ⟨fuel - 1, by omega⟩
    have read := members_following reads fuel rest (by omega)
    obtain ⟨more, shown⟩ : ∃ more, memberChars member = '"' :: more := by
      rw [memberChars, toList_renderString]
      exact ⟨_, rfl⟩
    rw [shown, List.cons_append] at read
    rw [List.cons_append, List.append_assoc, shown, List.cons_append]
    show (members? fuel ('"' :: _)).map _ = _
    rw [read, Option.map_some]
    show some (object (member :: members), rest) = _
    rw [object_of_sorted sorted]

theorem Exact.reads {value : Json} (exact : Exact value) : Reads value := by
  -- Items and members are exact values again, so the induction is on what makes the value exact.
  induction exact with
  | null =>
    intro fuel rest enough _
    cases fuel with
    | zero => cases enough
    | succ fuel => rfl
  | bool truth =>
    intro fuel rest enough _
    cases fuel with
    | zero => cases truth <;> cases enough
    | succ fuel => cases truth <;> rfl
  | int range => exact reads_int range
  | str text => exact reads_str text
  | arr exact reads => exact reads_arr exact reads
  | obj sorted _ reads => exact reads_obj sorted reads

/-- A value of this kind is read from its text as it was. -/
theorem parse_render {value : Json} (exact : Exact value) : parse? (render value) = some value := by
  have read : value? (2 * (render value).toList.length + 2) (render value).toList =
      some (value, []) := by
    have whole := exact.reads (2 * (chars value).length + 2) [] (by omega) nofun
    rwa [List.append_nil] at whole
  unfold parse?
  dsimp only
  rw [read]
  rfl

/-! ### Objects that grow -/

theorem mem_insertMember {name : String} {value : Json} {members : List (String × Json)}
    {member : String × Json} (present : member ∈ insertMember name value members) :
    member = (name, value) ∨ member ∈ members := by
  induction members with
  | nil => exact .inl (List.mem_singleton.mp present)
  | cons first members ih =>
    rw [insertMember] at present
    split at present
    · exact List.mem_cons.mp present
    · split at present
      · rcases List.mem_cons.mp present with same | later
        · exact .inl same
        · exact .inr (List.mem_cons_of_mem first later)
      · rcases List.mem_cons.mp present with rfl | later
        · exact .inr List.mem_cons_self
        · exact (ih later).imp_right (List.mem_cons_of_mem first)

theorem sorted_insertMember {name : String} {value : Json} {members : List (String × Json)}
    (sorted : members.Pairwise fun a b => a.1 < b.1) :
    (insertMember name value members).Pairwise fun a b => a.1 < b.1 := by
  induction members with
  | nil => exact List.pairwise_singleton _ _
  | cons first members ih =>
    obtain ⟨above, sorted⟩ := List.pairwise_cons.mp sorted
    rw [insertMember]
    split
    · rename_i before
      refine List.pairwise_cons.mpr ⟨?_, List.pairwise_cons.mpr ⟨above, sorted⟩⟩
      intro member present
      rcases List.mem_cons.mp present with rfl | later
      · exact before
      · exact String.lt_trans before (above member later)
    · rename_i notBefore
      split
      · rename_i same
        obtain rfl : name = first.1 := by simpa using same
        exact List.pairwise_cons.mpr ⟨above, sorted⟩
      · rename_i other
        have different : name ≠ first.1 := by simpa using other
        have after : first.1 < name := by
          by_contra notAfter
          have below : name ≤ first.1 := String.not_lt.mp notAfter
          exact different (String.le_antisymm below (String.not_lt.mp notBefore))
        refine List.pairwise_cons.mpr ⟨?_, ih sorted⟩
        intro member present
        rcases mem_insertMember present with rfl | later
        · exact after
        · exact above member later

theorem Exact.insertMember {name : String} {value : Json} {members : List (String × Json)}
    (exact : Exact (.obj members)) (added : Exact value) :
    Exact (.obj (insertMember name value members)) := by
  cases exact with
  | obj sorted exact =>
    refine .obj (sorted_insertMember sorted) ?_
    intro member present
    rcases mem_insertMember present with rfl | before
    · exact added
    · exact exact member before

end Folio.Json
