import Folio.Proofs.Http.Handlers
import Folio.Proofs.Username

/-!
# The grammar of usernames

`username_grammar` says which texts are usernames and with what the others are refused.
`username_characters` compares the characters of usernames with letters, digits and five signs.
-/

namespace Folio.Username

/-! ### Characters -/

/-- The word characters of Unicode, class by class, and four signs. -/
inductive Allowed (c : Char) : Prop where
  | alphabetic (letter : Text.isAlphabetic c = true)
  | mark (mark : Text.isMark c = true)
  | decimal (digit : Text.isDecimal c = true)
  | connector (connector : Text.isConnector c = true)
  | joiner (joiner : c = '\u200c' ∨ c = '\u200d')
  | sign (listed : c ∈ ['.', '@', '+', '-'])

theorem isJoiner_iff {c : Char} : Text.isJoiner c = true ↔ c = '\u200c' ∨ c = '\u200d' := by
  unfold Text.isJoiner
  rw [Bool.or_eq_true, beq_iff_eq, beq_iff_eq, ← Char.toNat_inj, ← Char.toNat_inj]
  rfl

theorem isUsernameChar_iff {c : Char} : isUsernameChar c = true ↔ Allowed c := by
  have signs : ∀ d ∈ ['.', '@', '+', '-'], isUsernameChar d = true :=
    List.all_eq_true.mp (by decide +kernel)
  unfold isUsernameChar Text.isWord at signs ⊢
  simp only [Bool.or_eq_true, beq_iff_eq, isJoiner_iff]
  constructor
  · rintro ((((((((letter | mark) | digit) | connector) | joiner) | rfl) | rfl) | rfl) | rfl)
    · exact .alphabetic letter
    · exact .mark mark
    · exact .decimal digit
    · exact .connector connector
    · exact .joiner joiner
    all_goals exact .sign (by decide)
  · intro allowed
    cases allowed with
    | alphabetic letter => simp [letter]
    | mark mark => simp [mark]
    | decimal digit => simp [digit]
    | connector connector => simp [connector]
    | joiner joiner => simp [joiner]
    | sign listed => simpa only [Bool.or_eq_true, beq_iff_eq, isJoiner_iff] using signs c listed

/-- A letter, a decimal digit or one of five signs. -/
inductive Plain (c : Char) : Prop where
  | letter (letter : Text.isAlphabetic c = true)
  | digit (digit : Text.isDecimal c = true)
  | sign (listed : c ∈ ['@', '.', '+', '-', '_'])

/-- A word character besides: a mark that is neither letter nor digit, a connector but the
underscore, or a joiner. -/
inductive Stray (c : Char) : Prop where
  | mark (mark : Text.isMark c = true) (noLetter : Text.isAlphabetic c = false)
      (noDigit : Text.isDecimal c = false)
  | connector (connector : Text.isConnector c = true) (other : c ≠ '_')
  | joiner (joiner : c = '\u200c' ∨ c = '\u200d')

theorem allowed_iff {c : Char} : Allowed c ↔ Plain c ∨ Stray c := by
  have more : ['.', '@', '+', '-'] ⊆ ['@', '.', '+', '-', '_'] := by decide
  have fewer : ∀ d ∈ ['@', '.', '+', '-', '_'], d = '_' ∨ d ∈ ['.', '@', '+', '-'] := by simp
  constructor
  · intro allowed
    cases allowed with
    | alphabetic letter => exact .inl (.letter letter)
    | mark mark =>
      cases letter : Text.isAlphabetic c with
      | true => exact .inl (.letter letter)
      | false =>
        cases digit : Text.isDecimal c with
        | true => exact .inl (.digit digit)
        | false => exact .inr (.mark mark letter digit)
    | decimal digit => exact .inl (.digit digit)
    | connector connector =>
      by_cases underscore : c = '_'
      · exact .inl (.sign (by simp [underscore]))
      · exact .inr (.connector connector underscore)
    | joiner joiner => exact .inr (.joiner joiner)
    | sign listed => exact .inl (.sign (more listed))
  · rintro (plain | stray)
    · cases plain with
      | letter letter => exact .alphabetic letter
      | digit digit => exact .decimal digit
      | sign listed =>
        rcases fewer c listed with rfl | listed
        · exact .connector (by decide)
        · exact .sign listed
    · cases stray with
      | mark mark => exact .mark mark
      | connector connector => exact .connector connector
      | joiner joiner => exact .joiner joiner

theorem not_plain_of_stray {c : Char} (stray : Stray c) : ¬Plain c := by
  have letters : ∀ r ∈ Text.connectorRanges, ∀ q ∈ Text.alphabeticRanges,
      r.2 < q.1 ∨ q.2 < r.1 := by
    decide +kernel
  have digits : ∀ r ∈ Text.connectorRanges, ∀ q ∈ Text.decimalRanges,
      r.2 < q.1 ∨ q.2 < r.1 := by
    decide +kernel
  have joiners : ∀ d, d = '\u200c' ∨ d = '\u200d' → Text.isAlphabetic d = false ∧
      Text.isDecimal d = false ∧ d ∉ ['@', '.', '+', '-', '_'] := by
    rintro d (rfl | rfl)
    · decide +kernel
    · decide +kernel
  have signs : ∀ d ∈ ['@', '.', '+', '-', '_'], Text.isMark d = false ∧
      (Text.isConnector d = true → d = '_') := by
    intro d listed
    simp only [List.mem_cons, List.not_mem_nil, or_false] at listed
    rcases listed with rfl | rfl | rfl | rfl | rfl
    all_goals decide +kernel
  intro plain
  cases stray with
  | mark mark noLetter noDigit =>
    cases plain with
    | letter letter => exact Bool.false_ne_true (noLetter.symm.trans letter)
    | digit digit => exact Bool.false_ne_true (noDigit.symm.trans digit)
    | sign listed => exact Bool.false_ne_true ((signs c listed).1.symm.trans mark)
  | connector connector other =>
    cases plain with
    | letter letter =>
      exact Bool.false_ne_true ((Text.inRanges_disjoint letters connector).symm.trans letter)
    | digit digit =>
      exact Bool.false_ne_true ((Text.inRanges_disjoint digits connector).symm.trans digit)
    | sign listed => exact other ((signs c listed).2 connector)
  | joiner joiner =>
    obtain ⟨noLetter, noDigit, noSign⟩ := joiners c joiner
    cases plain with
    | letter letter => exact Bool.false_ne_true (noLetter.symm.trans letter)
    | digit digit => exact Bool.false_ne_true (noDigit.symm.trans digit)
    | sign listed => exact noSign listed

theorem le_toNat_of_stray {c : Char} (stray : Stray c) : 0x300 ≤ c.toNat := by
  have marks : ∀ r ∈ Text.markRanges, 0x300 ≤ r.1 := by decide +kernel
  have connectors : ∀ r ∈ Text.connectorRanges, r = (0x5f, 0x5f) ∨ 0x300 ≤ r.1 := by decide
  cases stray with
  | mark mark =>
    obtain ⟨r, member, low, _⟩ := Text.inRanges_eq_true_iff.mp mark
    exact Nat.le_trans (marks r member) low
  | connector connector other =>
    obtain ⟨r, member, low, high⟩ := Text.inRanges_eq_true_iff.mp connector
    rcases connectors r member with rfl | later
    · have code : c.toNat = 0x5f := Nat.le_antisymm high low
      exact (other (Char.toNat_inj.mp code)).elim
    · exact Nat.le_trans later low
  | joiner joiner =>
    rcases joiner with rfl | rfl
    · decide
    · decide

/-! ### Texts -/

/-- What a text without blanks around it is read as. -/
inductive Reading (text : String) : Except UserError Username → Prop where
  | empty (empty : text = "") : Reading text (.error .emptyUsername)
  | long (filled : text ≠ "") (long : 150 < text.length) :
      Reading text (.error .usernameTooLong)
  | forbidden (filled : text ≠ "") (short : text.length ≤ 150)
      (forbidden : ∃ c ∈ text.toList, ¬Allowed c) :
      Reading text (.error .usernameInvalidCharacters)
  | accepted (filled : text ≠ "") (short : text.length ≤ 150)
      (allowed : ∀ c ∈ text.toList, Allowed c) {name : Username} (same : name.text = text) :
      Reading text (.ok name)

theorem all_isUsernameChar_iff {cs : List Char} :
    cs.all isUsernameChar = true ↔ ∀ c ∈ cs, Allowed c := by
  simp only [List.all_eq_true, isUsernameChar_iff]

theorem reading_parse (raw : String) : Reading (Text.trim raw) (parse raw) := by
  unfold parse
  dsimp only
  split
  · rename_i empty
    exact .empty empty
  · rename_i filled
    split
    · rename_i long
      exact .long filled long
    · rename_i short
      split
      · rename_i allowed
        exact .accepted filled (Nat.le_of_not_lt short) (all_isUsernameChar_iff.mp allowed) rfl
      · rename_i forbidden
        rw [all_isUsernameChar_iff] at forbidden
        exact .forbidden filled (Nat.le_of_not_lt short) (by simpa using forbidden)

/-- A text is read as one thing only. -/
theorem Reading.unique {text : String} {one other : Except UserError Username}
    (first : Reading text one) (second : Reading text other) : one = other := by
  cases first with
  | empty empty =>
    cases second with
    | empty => rfl
    | long filled | forbidden filled | accepted filled => exact (filled empty).elim
  | long filled long =>
    cases second with
    | empty empty => exact (filled empty).elim
    | long => rfl
    | forbidden _ short | accepted _ short => exact (Nat.not_le_of_lt long short).elim
  | forbidden filled short forbidden =>
    cases second with
    | empty empty => exact (filled empty).elim
    | long _ long => exact (Nat.not_le_of_lt long short).elim
    | forbidden => rfl
    | accepted _ _ allowed =>
      obtain ⟨c, stands, outside⟩ := forbidden
      exact (outside (allowed c stands)).elim
  | accepted filled short allowed same =>
    cases second with
    | empty empty => exact (filled empty).elim
    | long _ long => exact (Nat.not_le_of_lt long short).elim
    | forbidden _ _ forbidden =>
      obtain ⟨c, stands, outside⟩ := forbidden
      exact (outside (allowed c stands)).elim
    | accepted _ _ _ again => rw [ext_text (same.trans again.symm)]

theorem parse_eq_iff {raw : String} {result : Except UserError Username} :
    parse raw = result ↔ Reading (Text.trim raw) result := by
  constructor
  · rintro rfl
    exact reading_parse raw
  · exact (reading_parse raw).unique

/-! ### Path segments -/

theorem handler_username_iff (trace : Option TraceId) {raw : String} {name : Username} :
    Http.Handler.username trace raw = pure name ↔ name.text = raw := by
  constructor
  · intro same
    -- Programs that are equal have equal effects, and a refusal is not the effect of a result.
    have effect := @Http.Handler.effect_username World (World.answer .standard []) trace raw
      (.start none) .initial
    rw [same] at effect
    split at effect
    · rename_i found read
      have equal : name = found := by cases effect; rfl
      rw [equal]
      exact verbatim_eq_some.mp read
    · cases effect
  · rintro rfl
    unfold Http.Handler.username
    rw [verbatim_text]

theorem handler_username_unknown (trace : Option TraceId) {raw : String}
    (unknown : ∀ name : Username, name.text ≠ raw) :
    Http.Handler.username trace raw = .ofService (Profile.refuseUnknown trace raw) := by
  have unread : verbatim? raw = none := by
    rw [Option.eq_none_iff_forall_ne_some]
    exact fun name read => unknown name (verbatim_eq_some.mp read)
  unfold Http.Handler.username
  rw [unread]

/-! ### The grammar -/

/-- Every text has one part between the blanks around it, and that part decides what the text is
read as. What is read as a username holds no blank and is read as itself. A path segment names a
user exactly when it is a username as it stands. -/
theorem username_grammar (raw : String) :
    ∃ text, Text.Trimmed raw text ∧ (∀ other, Text.Trimmed raw other → other = text) ∧
      (∀ result, parse raw = result ↔ Reading text result) ∧
      (∀ name, parse raw = .ok name →
        (∀ c ∈ name.text.toList, Text.isBlank c = false) ∧ parse name.text = .ok name ∧
          ∀ trace, Http.Handler.username trace name.text = pure name) ∧
      ∀ trace,
        (∀ name, Http.Handler.username trace raw = pure name ↔
          (∃ source, parse source = .ok name) ∧ name.text = raw) ∧
        ((¬∃ source name, parse source = .ok name ∧ name.text = raw) →
          Http.Handler.username trace raw = .ofService (Profile.refuseUnknown trace raw)) := by
  refine ⟨Text.trim raw, Text.trimmed_trim raw, fun other => Text.Trimmed.eq_trim,
    fun result => parse_eq_iff, ?_, fun trace => ⟨?_, ?_⟩⟩
  · intro name _
    have visible : ∀ c ∈ name.text.toList, Text.isBlank c = false := fun c member =>
      isUsernameChar_not_blank (List.all_eq_true.mp name.allowed c member)
    exact ⟨visible, name.parse_text, fun trace => (handler_username_iff trace).mpr rfl⟩
  · intro name
    rw [handler_username_iff]
    exact ⟨fun same => ⟨⟨_, name.parse_text⟩, same⟩, fun own => own.2⟩
  · intro nobody
    exact handler_username_unknown trace fun name same =>
      nobody ⟨name.text, name, name.parse_text, same⟩

/-- Letters, digits and a mark from outside ASCII. -/
def lodz : Username := ⟨"łódz\u0301٣", by decide, by decide, by decide +kernel⟩

theorem username_grammar_spaced :
    Text.Trimmed "\u3000łódz\u0301٣\n" lodz.text ∧
      parse "\u3000łódz\u0301٣\n" = .ok lodz ∧ parse lodz.text = .ok lodz ∧
      Http.Handler.username none lodz.text = pure lodz ∧
      Http.Handler.username none "łódz\u0301٣\n" =
        .ofService (Profile.refuseUnknown none "łódz\u0301٣\n") := by
  obtain ⟨text, trimmed, only, readings, names, _⟩ := username_grammar "\u3000łódz\u0301٣\n"
  have middle : Text.trim "\u3000łódz\u0301٣\n" = lodz.text := by rfl
  have around : Text.Trimmed "\u3000łódz\u0301٣\n" lodz.text := by
    rw [← middle]
    exact Text.trimmed_trim _
  obtain rfl := only _ around
  have read : parse "\u3000łódz\u0301٣\n" = .ok lodz :=
    (readings _).mpr
      (.accepted lodz.nonempty lodz.short (all_isUsernameChar_iff.mp lodz.allowed) rfl)
  obtain ⟨_, itself, segment⟩ := names lodz read
  obtain ⟨_, _, _, _, _, segments⟩ := username_grammar "łódz\u0301٣\n"
  refine ⟨around, read, itself, segment none, (segments none).2 ?_⟩
  rintro ⟨_, name, _, ended⟩
  have final : '\n' ∈ name.text.toList := by rw [ended]; decide
  exact Bool.false_ne_true ((isUsernameChar_not_blank
    (List.all_eq_true.mp name.allowed _ final)).symm.trans (by decide))

/-! ### The alphabet -/

/-- Plain and stray characters stand in usernames, and no others do. -/
theorem stands_iff {c : Char} :
    (∃ name : Username, c ∈ name.text.toList) ↔ Plain c ∨ Stray c := by
  rw [← allowed_iff, ← isUsernameChar_iff]
  constructor
  · rintro ⟨name, member⟩
    exact List.all_eq_true.mp name.allowed c member
  · intro allowed
    -- The character is a username by itself.
    let name : Username := ⟨String.singleton c, by simp, by simp [usernameLimit], by simpa⟩
    exact ⟨name, by simp [name]⟩

theorem not_blank_of_stray {c : Char} (stray : Stray c) : Text.isBlank c = false :=
  isUsernameChar_not_blank (isUsernameChar_iff.mpr (allowed_iff.mpr (.inr stray)))

/-- A username holds letters, decimal digits, five signs and stray word characters. It holds nothing
but letters, digits and those signs exactly when no stray character stands in the text that it was
read from. No stray character comes before U+0300, so that this is so of all earlier ones. -/
theorem username_characters (raw : String) (name : Username) (read : parse raw = .ok name) :
    (∀ c ∈ name.text.toList, Plain c ∨ Stray c) ∧
    ((∀ c ∈ name.text.toList, Plain c) ↔ ∀ c ∈ raw.toList, ¬Stray c) ∧
    ((∀ c ∈ name.text.toList, c.toNat < 0x300) → ∀ c ∈ name.text.toList, Plain c) := by
  have stands : ∀ c ∈ name.text.toList, Plain c ∨ Stray c :=
    fun c member => stands_iff.mp ⟨name, member⟩
  have plain_iff : (∀ c ∈ name.text.toList, Plain c) ↔ ∀ c ∈ name.text.toList, ¬Stray c := by
    constructor
    · intro plain c member stray
      exact not_plain_of_stray stray (plain c member)
    · intro none c member
      exact (stands c member).resolve_right (none c member)
  obtain ⟨before, after, whole, blank_before, blank_after⟩ := (Text.trimmed_trim raw).between
  rw [← text_of_parse read] at whole
  refine ⟨stands, plain_iff.trans ⟨?_, ?_⟩, fun early => plain_iff.mpr ?_⟩
  · intro none c member stray
    -- A stray character is no blank, so that it stands in the username.
    have visible := not_blank_of_stray stray
    rw [whole, List.mem_append, List.mem_append] at member
    rcases member with blank | inside | blank
    · exact Bool.false_ne_true (visible.symm.trans (blank_before c blank))
    · exact none c inside stray
    · exact Bool.false_ne_true (visible.symm.trans (blank_after c blank))
  · intro none c member
    exact none c (by simp [whole, member])
  · intro c member stray
    exact Nat.not_lt_of_le (le_toNat_of_stray stray) (early c member)

def elise : Username := ⟨"Élise_1", by decide, by decide, by decide +kernel⟩

theorem username_characters_early :
    parse " Élise_1" = .ok elise ∧ (∀ c ∈ elise.text.toList, Plain c) ∧
      ∀ c ∈ " Élise_1".toList, ¬Stray c := by
  have trimmed : Text.trim " Élise_1" = elise.text := by rfl
  have read : parse " Élise_1" = .ok elise := by rw [← parse_trim, trimmed, parse_text]
  have early : (elise.text.toList.all fun c => c.toNat < 0x300) = true := by decide
  obtain ⟨_, plain_iff, earlier⟩ := username_characters " Élise_1" elise read
  have plain := earlier (by simpa using early)
  exact ⟨read, plain, plain_iff.mp plain⟩

/-- A username may hold a joiner, which nobody sees. -/
theorem joiner_accepted :
    ∃ name, parse "eli\u200d" = .ok name ∧ '\u200d' ∈ name.text.toList ∧ ¬Plain '\u200d' := by
  let name : Username := ⟨"eli\u200d", by decide, by decide, by decide +kernel⟩
  exact ⟨name, name.parse_text, by decide, not_plain_of_stray (.joiner (.inr rfl))⟩

end Folio.Username
