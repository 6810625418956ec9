import Folio.Password.Phc
import Folio.Proofs.Password.Base64
import Folio.Proofs.Text.Digits

/-!
# Password hash strings read back

The parts of a hash string are read back from its text (`parse_render`) when they keep to the limits
of the format (`Phc.Regular`).
-/

namespace Folio.Password.Phc

variable {c : Char} {cs : List Char}

/-! ### Characters -/

theorem isValueChar_lt (value : isValueChar c = true) : c.toNat < 128 := by
  unfold isValueChar Char.isAlphanum Char.isAlpha Char.isUpper Char.isLower Char.isDigit at value
  simp only [Bool.or_eq_true, Bool.and_eq_true, decide_eq_true_eq, beq_iff_eq] at value
  unfold Char.toNat
  rcases value with (((((upper | lower) | digit) | rfl) | rfl) | rfl) | rfl
  · have := UInt32.le_iff_toNat_le.mp upper.2
    exact Nat.lt_of_le_of_lt this (by decide)
  · have := UInt32.le_iff_toNat_le.mp lower.2
    exact Nat.lt_of_le_of_lt this (by decide)
  · have := UInt32.le_iff_toNat_le.mp digit.2
    exact Nat.lt_of_le_of_lt this (by decide)
  all_goals decide

theorem isValueChar_of_isNameChar (name : isNameChar c = true) : isValueChar c = true := by
  unfold isNameChar at name
  unfold isValueChar Char.isAlphanum Char.isAlpha
  grind

theorem isValueChar_of_isSymbol (symbol : Base64.isSymbol c = true) : isValueChar c = true := by
  unfold Base64.isSymbol at symbol
  unfold isValueChar
  grind

theorem isValueChar_of_isDigit (digit : c.isDigit = true) : isValueChar c = true := by
  unfold isValueChar Char.isAlphanum
  grind

/-- A character that separates the parts of a hash string. -/
def isMark (c : Char) : Bool :=
  c == '$' || c == ',' || c == '='

theorem isMark_of_isValueChar (value : isValueChar c = true) : isMark c = false := by
  cases mark : isMark c with
  | false => rfl
  | true =>
    unfold isMark at mark
    simp only [Bool.or_eq_true, beq_iff_eq] at mark
    rcases mark with (rfl | rfl) | rfl <;> cases value

theorem byteSize_eq (small : ∀ c ∈ cs, c.toNat < 128) : byteSize cs = cs.length := by
  induction cs with
  | nil => rfl
  | cons c cs ih =>
    have first : c.utf8Size = 1 := by
      rw [Char.utf8Size_eq_one_iff, UInt32.le_iff_toNat_le]
      exact Nat.le_of_lt_succ (small c List.mem_cons_self)
    have rest := ih fun d member => small d (List.mem_cons_of_mem c member)
    unfold byteSize at rest ⊢
    rw [String.ofList_cons, String.utf8ByteSize_append, String.utf8ByteSize_singleton, first, rest,
      List.length_cons, Nat.add_comm]

/-! ### Names, values and numbers -/

/-- A name within the limits of the format. -/
structure IsName (cs : List Char) : Prop where
  nonempty : cs ≠ []
  short : cs.length ≤ 32
  chars : ∀ c ∈ cs, isNameChar c = true

/-- A value within the limits of the format. -/
structure IsValue (cs : List Char) : Prop where
  short : cs.length ≤ 64
  chars : ∀ c ∈ cs, isValueChar c = true

theorem IsName.valueChars (isName : IsName cs) : ∀ c ∈ cs, isValueChar c = true :=
  fun c member => isValueChar_of_isNameChar (isName.chars c member)

theorem byteSize_of_valueChars (chars : ∀ c ∈ cs, isValueChar c = true) :
    byteSize cs = cs.length :=
  byteSize_eq fun c member => isValueChar_lt (chars c member)

/-- No mark stands in a name, a value or a salt. -/
theorem clear_of_valueChars {mark : Char} (isMark : isMark mark = true)
    (chars : ∀ c ∈ cs, isValueChar c = true) : ∀ c ∈ cs, (c == mark) = false := by
  intro c member
  rw [beq_eq_false_iff_ne]
  rintro rfl
  rw [isMark_of_isValueChar (chars c member)] at isMark
  cases isMark

theorem find_none {p : Char → Bool} (all : ∀ c ∈ cs, p c = true) :
    cs.find? (!p ·) = none := by
  rw [List.find?_eq_none]
  intro c member
  simp [all c member]

theorem name_eq (isName : IsName cs) : name cs = .ok cs := by
  unfold name
  rw [byteSize_of_valueChars isName.valueChars, if_pos]
  simp [isName.nonempty, isName.short, List.all_eq_true.mpr isName.chars]

theorem value_eq (isValue : IsValue cs) : value cs = .ok cs := by
  have short := isValue.short
  unfold value
  rw [byteSize_of_valueChars isValue.chars, if_neg (by omega), find_none isValue.chars]

theorem digits_toDigits (n : Nat) : ∀ c ∈ Nat.toDigits 10 n, c.isDigit = true :=
  fun _ member => Nat.isDigit_of_mem_toDigits (by decide) (by decide) member

theorem isValue_toDigits {n : Nat} (small : n < 4294967296) : IsValue (Nat.toDigits 10 n) := by
  have length : (Nat.toDigits 10 n).length ≤ 10 :=
    (Nat.length_toDigits_le_iff (by decide) (by decide)).mpr (by omega)
  exact ⟨by omega, fun c member => isValueChar_of_isDigit (digits_toDigits n c member)⟩

theorem decimal_toDigits {n : Nat} (small : n < 4294967296) :
    decimal (Nat.toDigits 10 n) = .ok n := by
  have lead : ¬((Nat.toDigits 10 n).head? = some '0' ∧ (Nat.toDigits 10 n).length > 1) := by
    rintro ⟨zero, long⟩
    rcases Nat.eq_zero_or_pos n with rfl | positive
    · cases long with
      | step impossible => cases impossible
    · exact Text.head_toDigits positive zero
  have number : Text.decimalValue (Nat.toDigits 10 n) = n := by
    rw [Text.decimalValue_eq, Nat.ofDigitChars_ten_toDigits]
  unfold decimal
  rw [if_neg (by simp [Nat.toDigits_ne_nil]), find_none (digits_toDigits n)]
  dsimp only
  rw [if_neg lead, number, if_pos small]

/-! ### Parameters -/

/-- A parameter within the limits of the format. -/
structure IsParam (param : List Char × List Char) : Prop where
  name : IsName param.1
  value : IsValue param.2

/-- The text of parameters. -/
def paramText (params : List (List Char × List Char)) : List Char :=
  [','].intercalate (params.map renderParam)

theorem param_renderParam {p : List Char × List Char} (isParam : IsParam p) :
    param (renderParam p) = .ok p := by
  obtain ⟨isName, isValue⟩ := isParam
  unfold param renderParam
  rw [Text.split_append (clear_of_valueChars rfl isName.valueChars) rfl,
    Text.split_clear (clear_of_valueChars rfl isValue.chars)]
  dsimp only
  rw [name_eq isName, value_eq isValue]
  rfl

theorem renderParam_chars {p : List Char × List Char} (isParam : IsParam p) :
    ∀ c ∈ renderParam p, isValueChar c = true ∨ c = '=' := by
  intro c member
  rcases List.mem_append.mp member with first | second
  · exact .inl (isParam.name.valueChars c first)
  · rcases List.mem_cons.mp second with rfl | later
    · exact .inr rfl
    · exact .inl (isParam.value.chars c later)

theorem mem_intercalate {sep c : Char} {pieces : List (List Char)}
    (member : c ∈ [sep].intercalate pieces) : c = sep ∨ ∃ piece ∈ pieces, c ∈ piece := by
  induction pieces with
  | nil => simp at member
  | cons piece rest ih =>
    cases rest with
    | nil => exact .inr ⟨piece, List.mem_cons_self, by simpa using member⟩
    | cons next later =>
      rw [List.intercalate_cons_cons, List.mem_append, List.mem_append, List.mem_singleton]
        at member
      rcases member with (here | rfl) | elsewhere
      · exact .inr ⟨piece, List.mem_cons_self, here⟩
      · exact .inl rfl
      · rcases ih elsewhere with same | ⟨found, among, inside⟩
        · exact .inl same
        · exact .inr ⟨found, List.mem_cons_of_mem _ among, inside⟩

theorem paramText_chars {params : List (List Char × List Char)} (all : ∀ p ∈ params, IsParam p) :
    ∀ c ∈ paramText params, isValueChar c = true ∨ c = '=' ∨ c = ',' := by
  intro c member
  rcases mem_intercalate member with comma | ⟨piece, among, inside⟩
  · exact .inr (.inr comma)
  · obtain ⟨p, listed, rfl⟩ := List.mem_map.mp among
    rcases renderParam_chars (all p listed) c inside with value | equals
    · exact .inl value
    · exact .inr (.inl equals)

theorem paramList_paramText {params : List (List Char × List Char)} (some : params ≠ [])
    (all : ∀ p ∈ params, IsParam p) (fits : (paramText params).length ≤ 127) :
    paramList (paramText params) = .ok params := by
  have small : ∀ c ∈ paramText params, c.toNat < 128 := by
    intro c member
    rcases paramText_chars all c member with value | rfl | rfl
    · exact isValueChar_lt value
    · decide
    · decide
  have clear : ∀ piece ∈ params.map renderParam, ∀ c ∈ piece, (c == ',') = false := by
    intro piece among c inside
    obtain ⟨p, listed, rfl⟩ := List.mem_map.mp among
    rw [beq_eq_false_iff_ne]
    rintro rfl
    rcases renderParam_chars (all p listed) _ inside with value | equals
    · cases value
    · cases equals
  have read : ∀ {ps : List (List Char × List Char)}, (∀ p ∈ ps, IsParam p) →
      (ps.map renderParam).mapM param = .ok ps := by
    intro ps all
    induction ps with
    | nil => rfl
    | cons p ps ih =>
      rw [List.map_cons, List.mapM_cons, param_renderParam (all p List.mem_cons_self),
        ih fun q later => all q (List.mem_cons_of_mem p later)]
      rfl
  unfold paramList
  rw [byteSize_eq small, if_neg (by omega), paramText,
    Text.split_intercalate (by simpa using some) clear rfl]
  exact read all

/-! ### Hash strings -/

/-- A hash string within the limits of the format. -/
structure Regular (phc : Phc) : Prop where
  algorithm : IsName phc.algorithm
  version : ∀ n, phc.version = some n → n < 4294967296
  params : ∀ p ∈ phc.params, IsParam p
  fits : (paramText phc.params).length ≤ 127
  /-- A parameter `v` on its own is read as the version. -/
  versioned : phc.version = none → ∀ value, phc.params ≠ [(['v'], value)]
  salt : ∀ salt, phc.salt = some salt →
    4 ≤ salt.length ∧ salt.length ≤ 64 ∧ ∀ c ∈ salt, isValueChar c = true
  hash : ∀ hash, phc.hash = some hash → leastOutput ≤ hash.length ∧ hash.length ≤ mostOutput
  salted : phc.salt = none → phc.hash = none

/-- The field of the version. -/
def versionFields (phc : Phc) : List (List Char) :=
  (phc.version.map fun n => 'v' :: '=' :: Nat.toDigits 10 n).toList

/-- The field of the parameters. -/
def paramFields (phc : Phc) : List (List Char) :=
  if phc.params.isEmpty then [] else [paramText phc.params]

/-- The fields of the salt and the hash. -/
def lastFields (phc : Phc) : List (List Char) :=
  phc.salt.toList ++ (phc.hash.map Base64.encode).toList

variable {phc : Phc} {fields : List (List Char)}

theorem toList_render (phc : Phc) :
    phc.render.toList = ['$'].intercalate
      ([] :: phc.algorithm :: (versionFields phc ++ (paramFields phc ++ lastFields phc))) := by
  have joined : ∀ (first : List Char) (rest : List (List Char)),
      ['$'].intercalate (first :: rest) = first ++ rest.flatMap ('$' :: ·) := by
    intro first rest
    induction rest generalizing first with
    | nil => simp
    | cons next later ih => rw [List.intercalate_cons_cons, ih]; simp
  obtain ⟨algorithm, version, params, salt, hash⟩ := phc
  unfold render versionFields paramFields lastFields paramText
  rw [String.toList_ofList, joined]
  cases version <;> cases salt <;> cases hash <;> cases params.isEmpty <;> simp

theorem clear_fields (regular : Regular phc) :
    ∀ piece ∈ [] :: phc.algorithm :: (versionFields phc ++ (paramFields phc ++ lastFields phc)),
      ∀ c ∈ piece, (c == '$') = false := by
  intro piece among
  simp only [List.mem_cons, List.mem_append] at among
  rcases among with rfl | rfl | version | params | last
  · simp
  · exact clear_of_valueChars rfl regular.algorithm.valueChars
  · obtain ⟨n, _, rfl⟩ := Option.map_eq_some_iff.mp (Option.mem_toList.mp version)
    intro c member
    rcases List.mem_cons.mp member with rfl | member
    · rfl
    · rcases List.mem_cons.mp member with rfl | member
      · rfl
      · exact clear_of_valueChars rfl
          (fun d digit => isValueChar_of_isDigit (digits_toDigits n d digit)) c member
  · unfold paramFields at params
    split at params
    · cases params
    · rw [List.mem_singleton] at params
      subst params
      intro c member
      rcases paramText_chars regular.params c member with value | rfl | rfl
      · have only : ∀ d ∈ [c], isValueChar d = true := by simpa using value
        exact clear_of_valueChars rfl only c List.mem_cons_self
      · rfl
      · rfl
  · rcases List.mem_append.mp last with salt | hash
    · exact clear_of_valueChars rfl (regular.salt piece (Option.mem_toList.mp salt)).2.2
    · obtain ⟨bytes, _, rfl⟩ := Option.map_eq_some_iff.mp (Option.mem_toList.mp hash)
      exact clear_of_valueChars rfl fun c member =>
        isValueChar_of_isSymbol (Base64.encode_symbols bytes c member)

theorem versionField_some {n : Nat} (small : n < 4294967296) :
    versionField (('v' :: '=' :: Nat.toDigits 10 n) :: fields) = .ok (some n, fields) := by
  have noComma : (Nat.toDigits 10 n).contains ',' = false := by
    rw [List.contains_eq_mem, decide_eq_false_iff_not]
    intro member
    have digit := digits_toDigits n ',' member
    cases digit
  change (if (Nat.toDigits 10 n).contains ',' then _ else _) = _
  rw [noComma, if_neg (by decide), value_eq (isValue_toDigits small)]
  change (Except.mapError PhcError.invalidValue (decimal (Nat.toDigits 10 n)) >>= _) = _
  rw [decimal_toDigits small]
  rfl

theorem versionField_none
    (other : ∀ digits rest, fields = ('v' :: '=' :: digits) :: rest → ',' ∈ digits) :
    versionField fields = .ok (none, fields) := by
  unfold versionField
  split
  · rename_i digits rest
    rw [if_pos (by simpa using other digits rest rfl)]
  · rfl

theorem paramsField_some {params : List (List Char × List Char)} (some : params ≠ [])
    (all : ∀ p ∈ params, IsParam p) (fits : (paramText params).length ≤ 127) :
    paramsField (paramText params :: fields) = .ok (params, fields) := by
  have equals : (paramText params).contains '=' = true := by
    obtain ⟨first, rest, rfl⟩ := List.exists_cons_of_ne_nil some
    unfold paramText renderParam
    cases rest with
    | nil => simp
    | cons next later => simp [List.intercalate_cons_cons]
  unfold paramsField
  dsimp only
  rw [if_pos equals, paramList_paramText some all fits]
  rfl

theorem paramsField_none (other : ∀ field rest, fields = field :: rest → '=' ∉ field) :
    paramsField fields = .ok ([], fields) := by
  unfold paramsField
  split
  · rename_i field rest
    rw [if_neg (by simpa using other field rest rfl)]
  · rfl

theorem saltField_eq {salt : List Char} (long : 4 ≤ salt.length) (short : salt.length ≤ 64)
    (chars : ∀ c ∈ salt, isValueChar c = true) : saltField salt = .ok salt := by
  unfold saltField
  rw [byteSize_of_valueChars chars, if_neg (by omega), if_neg (by omega), find_none chars]

theorem hashField_encode {hash : List UInt8} (long : leastOutput ≤ hash.length)
    (short : hash.length ≤ mostOutput) : hashField (Base64.encode hash) = .ok hash := by
  have size : byteSize (Base64.encode hash) = (Base64.encode hash).length :=
    byteSize_of_valueChars fun c member =>
      isValueChar_of_isSymbol (Base64.encode_symbols hash c member)
  unfold hashField
  rw [size, Base64.decodedSize_encode, if_neg (by omega), Base64.decode_encode]
  dsimp only
  rw [if_neg (by omega)]

theorem saltAndHash_lastFields (regular : Regular phc) :
    saltAndHash (lastFields phc) = .ok (phc.salt, phc.hash) := by
  unfold lastFields
  cases salt : phc.salt with
  | none => rw [regular.salted salt]; rfl
  | some s =>
    obtain ⟨long, short, chars⟩ := regular.salt s salt
    cases hash : phc.hash with
    | none =>
      change (saltField s >>= _) = _
      rw [saltField_eq long short chars]
      rfl
    | some h =>
      obtain ⟨enough, most⟩ := regular.hash h hash
      change (saltField s >>= _) = _
      rw [saltField_eq long short chars]
      change (hashField (Base64.encode h) >>= _) = _
      rw [hashField_encode enough most]
      rfl

theorem salt_unmarked (regular : Regular phc) {field : List Char} {rest : List (List Char)}
    (head : lastFields phc = field :: rest) : '=' ∉ field := by
  unfold lastFields at head
  cases salt : phc.salt with
  | none =>
    rw [salt, regular.salted salt] at head
    cases head
  | some s =>
    rw [salt] at head
    obtain ⟨rfl, _⟩ := List.cons.inj head
    intro member
    have value := (regular.salt _ salt).2.2 '=' member
    cases value

theorem paramsField_fields (regular : Regular phc) :
    paramsField (paramFields phc ++ lastFields phc) = .ok (phc.params, lastFields phc) := by
  unfold paramFields
  by_cases empty : phc.params = []
  · rw [empty]
    exact paramsField_none fun field rest head => salt_unmarked regular head
  · rw [if_neg (by simpa using empty)]
    exact paramsField_some empty regular.params regular.fits

/-- What starts like a version and is a parameter has the name `v`. -/
theorem named_v {p : List Char × List Char} {tail digits : List Char} (isName : IsName p.1)
    (same : p.1 ++ '=' :: tail = 'v' :: '=' :: digits) : p.1 = ['v'] ∧ tail = digits := by
  obtain ⟨first, rest, split⟩ := List.exists_cons_of_ne_nil isName.nonempty
  have chars := isName.valueChars
  rw [split] at same chars ⊢
  simp only [List.cons_append, List.cons.injEq] at same
  obtain ⟨rfl, same⟩ := same
  cases rest with
  | nil => exact ⟨rfl, (List.cons.inj same).2⟩
  | cons second rest =>
    obtain ⟨rfl, _⟩ := List.cons.inj same
    have value := chars '=' (by simp)
    cases value

theorem versionField_fields (regular : Regular phc) :
    versionField (versionFields phc ++ (paramFields phc ++ lastFields phc)) =
      .ok (phc.version, paramFields phc ++ lastFields phc) := by
  unfold versionFields
  cases version : phc.version with
  | some n => exact versionField_some (regular.version n version)
  | none =>
    -- The field that comes first could only be a version as a parameter `v`, and one that others
    -- follow after a comma is not taken for a version.
    apply versionField_none
    intro digits rest head
    unfold paramFields at head
    cases params : phc.params with
    | nil =>
      rw [params] at head
      exact absurd (by simp) (salt_unmarked regular head)
    | cons p ps =>
      have isName := (regular.params p (by simp [params])).name
      rw [params] at head
      obtain ⟨text, _⟩ := List.cons.inj head
      cases ps with
      | nil =>
        have same : p.1 ++ '=' :: p.2 = 'v' :: '=' :: digits := by
          simpa [paramText, renderParam] using text
        obtain ⟨v, _⟩ := named_v isName same
        exact absurd (by rw [params, ← v]) (regular.versioned version p.2)
      | cons q qs =>
        have same : p.1 ++ '=' :: (p.2 ++ ',' :: paramText (q :: qs)) = 'v' :: '=' :: digits := by
          simpa [paramText, renderParam, List.intercalate_cons_cons] using text
        obtain ⟨_, rfl⟩ := named_v isName same
        simp

theorem parse_render (regular : Regular phc) : parse phc.render = .ok phc := by
  have read : Text.split (· == '$') phc.render.toList =
      [] :: phc.algorithm :: (versionFields phc ++ (paramFields phc ++ lastFields phc)) := by
    rw [toList_render, Text.split_intercalate (List.cons_ne_nil _ _) (clear_fields regular) rfl]
  unfold parse
  rw [read]
  change (name phc.algorithm >>= _) = _
  rw [name_eq regular.algorithm]
  change (versionField _ >>= _) = _
  rw [versionField_fields regular]
  change (paramsField _ >>= _) = _
  rw [paramsField_fields regular]
  change (saltAndHash _ >>= _) = _
  rw [saltAndHash_lastFields regular]
  rfl

end Folio.Password.Phc
