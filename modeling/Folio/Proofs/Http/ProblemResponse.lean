import Folio.Http.Response
import Folio.Proofs.Json.Text
import Folio.Proofs.Problem.Codec

/-!
# Responses to problems

A header can hold a text exactly when its bytes are those of a field value (`isHeaderText_iff`).
`problem_response`: where the trace id is one, the response to a problem shows it and a body from
which the problem can be read, of an internal error only that it happened. A body is sent as text;
how it is written and read is a part of the statement, since not every text brings back every value:
a reader may refuse values that are nested deeply, and may round floating point numbers.
-/

namespace Folio.Http

/-! ### Field values -/

/-- The bytes that a field value is made of: no control characters but the tab. -/
def IsFieldByte (code : Nat) : Prop :=
  code = 9 ∨ (32 ≤ code ∧ code ≠ 127)

/-- All bytes of a text may stand in the value of a header. -/
def IsFieldValue (s : String) : Prop :=
  ∀ byte ∈ s.toUTF8.data, IsFieldByte byte.toNat

/-- Beyond the seven bits of a single byte, characters are encoded in bytes with the highest bit. -/
theorem utf8EncodeChar_fieldByte (c : Char) :
    (∀ byte ∈ String.utf8EncodeChar c, IsFieldByte byte.toNat) ↔ IsFieldByte c.toNat := by
  have code : c.val.toNat = c.toNat := rfl
  have high : ∀ n, 128 ≤ n → n < 256 → IsFieldByte (UInt8.ofNat n).toNat := by
    intro n lower upper
    rw [UInt8.toNat_ofNat_of_lt' upper]
    exact .inr ⟨by omega, by omega⟩
  rw [String.utf8EncodeChar.eq_1, code]
  by_cases single : c.toNat ≤ 127
  · have small : c.toNat < 256 := by omega
    rw [if_pos single, List.forall_mem_singleton, UInt8.toNat_ofNat_of_lt' small]
  · have beyond : IsFieldByte c.toNat := .inr ⟨by omega, by omega⟩
    simp only [beyond, iff_true, if_neg single]
    split
    · simp only [List.forall_mem_cons]
      exact ⟨high _ (by omega) (by omega), high _ (by omega) (by omega), nofun⟩
    · split
      · simp only [List.forall_mem_cons]
        exact ⟨high _ (by omega) (by omega), high _ (by omega) (by omega),
          high _ (by omega) (by omega), nofun⟩
      · simp only [List.forall_mem_cons]
        exact ⟨high _ (by omega) (by omega), high _ (by omega) (by omega),
          high _ (by omega) (by omega), high _ (by omega) (by omega), nofun⟩

theorem mem_toUTF8_iff {s : String} {byte : UInt8} :
    byte ∈ s.toUTF8.data ↔ ∃ c ∈ s.toList, byte ∈ String.utf8EncodeChar c := by
  rw [String.toUTF8_eq_toByteArray, ← String.utf8Encode_toList, List.utf8Encode,
    ← Array.mem_toList_iff, List.toList_data_toByteArray, List.mem_flatMap]

theorem isHeaderText_iff {s : String} : isHeaderText s = true ↔ IsFieldValue s := by
  have visible : ∀ c : Char,
      (c == '\t' || (0x20 ≤ c.toNat && c.toNat != 0x7f)) = true ↔ IsFieldByte c.toNat := by
    intro c
    have tab : c = '\t' ↔ c.toNat = 9 := by
      rw [← Char.toNat_inj]
      rfl
    simp [IsFieldByte, tab]
  unfold isHeaderText IsFieldValue
  simp only [List.all_eq_true, visible, mem_toUTF8_iff, ← utf8EncodeChar_fieldByte]
  constructor
  · rintro all byte ⟨c, member, encoded⟩
    exact all c member byte encoded
  · intro all c member byte encoded
    exact all byte ⟨c, member, encoded⟩

/-! ### Problems -/

theorem redact_traceId (problem : Problem) : (redact problem).traceId = problem.traceId := by
  unfold redact
  split
  · rfl
  · rfl

theorem redact_details {problem : Problem} (details : problem.details ≠ some .null) :
    (redact problem).details ≠ some .null := by
  unfold redact
  split
  · simp
  · exact details

/-- What callers may see of a problem can be read back. -/
theorem ofJsonWithin_redact (ambient : Option TraceId) {problem : Problem}
    (unblank : ∀ id, problem.traceId = some id → Text.isBlankText id = false)
    (details : problem.details ≠ some .null) :
    Problem.ofJsonWithin ambient (redact problem).toJson = .ok (redact problem) := by
  have legible : (redact problem).traceId.any Text.isBlankText = false := by
    rw [redact_traceId]
    exact Problem.unblank_iff.mpr unblank
  rw [Problem.ofJsonWithin_toJson, legible,
    Problem.bind_detailsOf_eq_iff.mpr (redact_details details)]
  rfl

/-- What is written of a problem comes back from JSON text if its details do. -/
theorem exact_toJson {problem : Problem}
    (exact : ∀ details, problem.details = some details → Json.Exact details) :
    Json.Exact problem.toJson := by
  obtain ⟨code, message, traceId, details, visible⟩ := problem
  have four : ["code", "details", "message", "traceId"].Pairwise (· < ·) := by decide
  refine .obj (List.pairwise_map.mp (four.sublist ?_)) ?_
  · cases details <;> cases traceId <;> simp
  · simp only [List.forall_mem_append, List.forall_mem_singleton]
    refine ⟨⟨⟨.str _, ?_⟩, .str _⟩, ?_⟩
    · intro member listed
      obtain ⟨value, given, rfl⟩ := Option.map_eq_some_iff.mp (Option.mem_toList.mp listed)
      exact exact value given
    · intro member listed
      obtain ⟨id, _, rfl⟩ := Option.map_eq_some_iff.mp (Option.mem_toList.mp listed)
      exact .str id

/-- What callers may see of a problem comes back from JSON text: of an internal error always, of any
other if its details do. -/
theorem parse_render_redact {problem : Problem} (exact : problem.code ≠ .internalError →
    ∀ details, problem.details = some details → Json.Exact details) :
    Json.parse? (Json.render (redact problem).toJson) = some (redact problem).toJson := by
  refine Json.parse_render (exact_toJson ?_)
  unfold redact
  split
  · intro details given
    cases given
  · rename_i plain
    exact exact plain

theorem writable_iff {problem : Problem} :
    problem.traceId.all isHeaderText = true ↔
      ∀ id, problem.traceId = some id → IsFieldValue id := by
  cases problem.traceId with
  | none => simp
  | some id => simp [isHeaderText_iff]

/-- The response to a problem. If the trace id is no field value it is the same for all problems, a
server error in plain text without a trace id. If it is one and not blank, and the details are not
null, the response has the status of the code and the trace id, and a body. However the body is
written and read, as long as it comes back as it was, the problem is read from what was written,
whatever the ambient trace id: as it is, or of an internal error only the trace id. JSON text brings
the body back if it brings back the details that are shown. -/
theorem problem_response (problem : Problem) :
    ((∀ id, problem.traceId = some id → Text.isBlankText id = false ∧ IsFieldValue id) →
      problem.details ≠ some .null →
      ∃ body,
        Response.ofProblem problem =
          { status := status problem.code, body := .json body, traceId := problem.traceId } ∧
        (∀ (κ : Type) (write : Json → κ) (read : κ → Option Json), read (write body) = some body →
          ∀ ambient,
            (problem.code ≠ .internalError →
              (read (write body)).map (Problem.ofJsonWithin ambient) = some (.ok problem)) ∧
            (problem.code = .internalError →
              (read (write body)).map (Problem.ofJsonWithin ambient) = some
                (.ok ⟨.internalError, "Internal server error", problem.traceId, none,
                  by decide⟩))) ∧
        ((problem.code ≠ .internalError →
            ∀ details, problem.details = some details → Json.Exact details) →
          Json.parse? (Json.render body) = some body)) ∧
    ((∃ id, problem.traceId = some id ∧ ¬IsFieldValue id) →
      Response.ofProblem problem =
        { status := 500, body := .text "failed to parse header value", traceId := none }) := by
  constructor
  · intro legible details
    have written := writable_iff.mpr fun id traced => (legible id traced).2
    refine ⟨(redact problem).toJson, if_pos written, ?_, parse_render_redact⟩
    intro κ write read kept ambient
    have decoded := ofJsonWithin_redact ambient (fun id traced => (legible id traced).1) details
    rw [kept, Option.map_some, decoded]
    constructor
    · intro plain
      rw [redact, if_neg plain]
    · intro internal
      rw [redact, if_pos internal]
      rfl
  · rintro ⟨id, traced, illegal⟩
    have unwritten : ¬problem.traceId.all isHeaderText = true :=
      fun written => illegal (writable_iff.mp written id traced)
    exact if_neg unwritten

/-- A problem with a trace id and with details in which there is a null. -/
def traced (code : ProblemCode) (traceId : String) : Problem :=
  ⟨code, "name taken", some traceId, some (.arr [.null]), by decide⟩

/-- The same problem three times, the first two through JSON text: as it is, as an internal error,
and with a line break in the trace id. -/
theorem problem_response_traced :
    (∃ body, Response.ofProblem (traced .conflict "é\t7") =
        { status := 409, body := .json body, traceId := some "é\t7" } ∧
      (Json.parse? (Json.render body)).map Problem.ofJson =
        some (.ok (traced .conflict "é\t7"))) ∧
    (∃ body, Response.ofProblem (traced .internalError "é\t7") =
        { status := 500, body := .json body, traceId := some "é\t7" } ∧
      (Json.parse? (Json.render body)).map Problem.ofJson =
        some (.ok ⟨.internalError, "Internal server error", some "é\t7", none, by decide⟩)) ∧
    ¬IsFieldValue "7\n7" ∧
    Response.ofProblem (traced .conflict "7\n7") =
      { status := 500, body := .text "failed to parse header value", traceId := none } := by
  have legible : ∀ id, some "é\t7" = some id → Text.isBlankText id = false ∧ IsFieldValue id := by
    rintro _ ⟨⟩
    exact ⟨by decide, isHeaderText_iff.mp (by decide)⟩
  have broken : ¬IsFieldValue "7\n7" := by
    rw [← isHeaderText_iff]
    decide
  have exact : ∀ details, some (.arr [.null]) = some details → Json.Exact details := by
    rintro _ ⟨⟩
    refine .arr ?_
    simp only [List.forall_mem_singleton]
    exact .null
  obtain ⟨body, shown, read, text⟩ :=
    (problem_response (traced .conflict "é\t7")).1 legible nofun
  obtain ⟨other, hidden, reread, retext⟩ :=
    (problem_response (traced .internalError "é\t7")).1 legible nofun
  have kept := text fun _ => exact
  have rekept := retext fun _ => exact
  exact ⟨⟨body, shown, (read String Json.render Json.parse? kept none).1 nofun⟩,
    ⟨other, hidden, (reread String Json.render Json.parse? rekept none).2 rfl⟩, broken,
    (problem_response (traced .conflict "7\n7")).2 ⟨_, rfl, broken⟩⟩

end Folio.Http
