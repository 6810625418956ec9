import Folio.Problem.Codec
import Folio.Proofs.Program.Effect

/-!
# Problems written as JSON and read back

`ofJsonWithin_toJson` says what reading a written problem gives: a blank trace id is refused and
details that are null are dropped. Whatever can be read is read again from what is written of it,
and its trace id is the one in the value (`problem_round_trip`).
-/

namespace Folio

theorem bind_eq_ok_iff {ε α β : Type} {x : Except ε α} {f : α → Except ε β} {b : β} :
    (x >>= f) = .ok b ↔ ∃ a, x = .ok a ∧ f a = .ok b := by
  cases x with
  | error e => simp [bind, Except.bind]
  | ok a => simp [bind, Except.bind]

theorem join_map {α β : Type} (o : Option α) (f : α → Option β) : (o.map f).join = o.bind f := by
  cases o with
  | none => rfl
  | some a => rfl

theorem ProblemCode.ofJson_name (code : ProblemCode) : ofJson (.str code.name) = .ok code := by
  cases code <;> rfl

namespace Problem

open Draft

/-! ### Reading what was written -/

theorem readMembers_toJson (problem : Problem) :
    ∃ members, problem.toJson = .obj members ∧
      readMembers {} members = .ok ⟨some problem.code, some problem.message,
        problem.traceId.map some, problem.details.map detailsOf⟩ := by
  refine ⟨_, rfl, ?_⟩
  cases problem.details with
  | none =>
    cases problem.traceId with
    | none => simp [readMembers, ProblemCode.ofJson_name, Json.asString, bind, Except.bind]
    | some id =>
      simp [readMembers, ProblemCode.ofJson_name, Json.asString, Json.asOptionalString, bind,
        Except.bind, Except.map]
  | some details =>
    cases problem.traceId with
    | none => simp [readMembers, ProblemCode.ofJson_name, Json.asString, bind, Except.bind]
    | some id =>
      simp [readMembers, ProblemCode.ofJson_name, Json.asString, Json.asOptionalString, bind,
        Except.bind, Except.map]

theorem new_of_blank (ambient : Option TraceId) (code : ProblemCode) {message : String}
    (blank : ¬Text.isBlankText message = false) :
    Problem.new ambient code message = .error .emptyMessage :=
  dif_neg blank

/-- The ambient trace id leaves no mark on a problem that is read. -/
theorem finish_eq (ambient : Option TraceId) {code : ProblemCode} {message : String}
    {traceId : Option (Option String)} {details : Option (Option Json)}
    (visible : Text.isBlankText message = false) :
    finish ambient ⟨some code, some message, traceId, details⟩ =
      if traceId.join.any Text.isBlankText then .error (.refused ProblemError.emptyTraceId.message)
      else .ok ⟨code, message, traceId.join, details.join, visible⟩ := by
  dsimp only [finish]
  rw [Problem.new_of_visible ambient code visible]
  rfl

theorem ofJsonWithin_toJson (ambient : Option TraceId) (problem : Problem) :
    ofJsonWithin ambient problem.toJson =
      if problem.traceId.any Text.isBlankText then
        .error (.refused ProblemError.emptyTraceId.message)
      else .ok { problem with details := problem.details.bind detailsOf } := by
  obtain ⟨members, written, read⟩ := readMembers_toJson problem
  rw [written]
  show (readMembers {} members >>= finish ambient) = _
  rw [read]
  dsimp only [bind, Except.bind]
  rw [finish_eq ambient problem.message_visible, join_map, join_map, Option.bind_fun_some]

/-- Details are read as they were written unless they are null. -/
theorem bind_detailsOf_eq_iff {details : Option Json} :
    details.bind detailsOf = details ↔ details ≠ some .null := by
  cases details with
  | none => simp
  | some value =>
    cases value with
    | null => simp [detailsOf]
    | _ => simp [detailsOf]

theorem detailsOf_ne_null (value : Json) : detailsOf value ≠ some .null := by
  cases value with
  | null => simp [detailsOf]
  | _ => simp [detailsOf]

/-! ### What can be read -/

/-- The text of a value that is one. -/
def textOf : Json → Option String
  | .str text => some text
  | _ => none

/-- Whether a member is the trace id, under either of its names. -/
def isTraceMember (member : String × Json) : Bool :=
  member.1 = "traceId" ∨ member.1 = "trace_id"

/-- The trace id that a value gives: the first member of an object under one of its names, or the
third item of an array. -/
def givenTraceId : Json → Option String
  | .obj members => (members.find? isTraceMember).bind fun member => textOf member.2
  | .arr items => items[2]?.bind textOf
  | _ => none

theorem textOf_of_asOptionalString {value : Json} {text : Option String}
    (read : value.asOptionalString = .ok text) : text = textOf value := by
  cases value with
  | null => cases read; rfl
  | str raw => cases read; rfl
  | _ => cases read

/-- Members that are read give the first trace id among them, unless one was there before, and
details that are not null. -/
theorem readMembers_ok {draft read : Draft} {members : List (String × Json)}
    (success : readMembers draft members = .ok read) :
    read.traceId = draft.traceId.or ((members.find? isTraceMember).map fun m => textOf m.2) ∧
      (draft.details.join ≠ some .null → read.details.join ≠ some .null) := by
  fun_induction readMembers draft members with
  | case1 draft =>
    cases success
    simp
  | case3 draft value rest fresh ih =>
    obtain ⟨code, _, later⟩ := bind_eq_ok_iff.mp success
    simpa [isTraceMember] using ih code later
  | case5 draft value rest fresh _ ih =>
    obtain ⟨message, _, later⟩ := bind_eq_ok_iff.mp success
    simpa [isTraceMember] using ih message later
  | case7 draft name value rest _ _ traced fresh ih =>
    obtain ⟨text, given, later⟩ := bind_eq_ok_iff.mp success
    obtain ⟨kept, details⟩ := ih text later
    have first : isTraceMember (name, value) = true := decide_eq_true traced
    have absent : draft.traceId = none := by simpa using fresh
    refine ⟨?_, details⟩
    rw [kept, absent, List.find?_cons_of_pos first, textOf_of_asOptionalString given]
    rfl
  | case9 draft value rest fresh _ _ _ ih =>
    obtain ⟨kept, details⟩ := ih success
    refine ⟨by simpa [isTraceMember] using kept, fun _ => details (detailsOf_ne_null value)⟩
  | case10 draft name value rest _ _ other _ ih =>
    have passed : isTraceMember (name, value) = false := decide_eq_false other
    rw [List.find?_cons, passed]
    exact ih success
  | case2 | case4 | case6 | case8 => cases success

theorem readItems_ok {items : List Json} {read : Draft} (success : readItems items = .ok read) :
    read.traceId.join = items[2]?.bind textOf ∧ read.details.join ≠ some .null := by
  unfold readItems at success
  match items with
  | [] => cases success
  | [code] =>
    obtain ⟨_, _, failed⟩ := bind_eq_ok_iff.mp success
    cases failed
  | code :: message :: rest =>
    obtain ⟨_, _, success⟩ := bind_eq_ok_iff.mp success
    obtain ⟨_, _, success⟩ := bind_eq_ok_iff.mp success
    obtain ⟨traceId, given, success⟩ := bind_eq_ok_iff.mp success
    split at success
    · cases success
      cases rest with
      | nil =>
        cases given
        exact ⟨rfl, nofun⟩
      | cons trace rest =>
        refine ⟨textOf_of_asOptionalString given, ?_⟩
        cases rest with
        | nil => exact nofun
        | cons details rest => exact detailsOf_ne_null details
    · cases success

/-- Finishing keeps what was read, and only if the trace id is not blank. -/
theorem finish_ok {ambient : Option TraceId} {draft : Draft} {problem : Problem}
    (success : draft.finish ambient = .ok problem) :
    problem.traceId = draft.traceId.join ∧ problem.details = draft.details.join ∧
      problem.traceId.any Text.isBlankText = false := by
  obtain ⟨code, message, traceId, details⟩ := draft
  cases code with
  | none => cases success
  | some code =>
    cases message with
    | none => cases success
    | some message =>
      by_cases visible : Text.isBlankText message = false
      · rw [finish_eq ambient visible] at success
        split at success
        · cases success
        · rename_i unblank
          cases success
          exact ⟨rfl, rfl, by simpa using unblank⟩
      · dsimp only [finish] at success
        rw [new_of_blank ambient code visible] at success
        split at success
        · cases success
        · cases success

/-- A value that can be read gives a problem with the trace id in it, and one that is read again as
it is. -/
theorem ofJsonWithin_ok {ambient : Option TraceId} {value : Json} {problem : Problem}
    (read : ofJsonWithin ambient value = .ok problem) :
    problem.traceId = givenTraceId value ∧ problem.details ≠ some .null ∧
      problem.traceId.any Text.isBlankText = false := by
  cases value with
  | obj members =>
    obtain ⟨draft, gathered, success⟩ := bind_eq_ok_iff.mp read
    obtain ⟨traced, details⟩ := readMembers_ok gathered
    obtain ⟨trace, kept, unblank⟩ := finish_ok success
    refine ⟨?_, ?_, unblank⟩
    · rw [trace, traced, Option.none_or]
      exact join_map _ _
    · rw [kept]
      exact details nofun
  | arr items =>
    obtain ⟨draft, gathered, success⟩ := bind_eq_ok_iff.mp read
    obtain ⟨traced, details⟩ := readItems_ok gathered
    obtain ⟨trace, kept, unblank⟩ := finish_ok success
    exact ⟨trace.trans traced, by rw [kept]; exact details, unblank⟩
  | _ => cases read

/-- What is read does not depend on the ambient trace id. -/
theorem finish_ambient (ambient other : Option TraceId) (draft : Draft) :
    draft.finish ambient = draft.finish other := by
  obtain ⟨code, message, traceId, details⟩ := draft
  cases code with
  | none => rfl
  | some code =>
    cases message with
    | none => rfl
    | some message =>
      by_cases visible : Text.isBlankText message = false
      · rw [finish_eq ambient visible, finish_eq other visible]
      · dsimp only [finish]
        rw [new_of_blank ambient code visible, new_of_blank other code visible]

theorem unblank_iff {traceId : Option String} :
    traceId.any Text.isBlankText = false ↔
      ∀ id, traceId = some id → Text.isBlankText id = false := by
  cases traceId with
  | none => simp
  | some id => simp

theorem ofJsonWithin_ambient (ambient other : Option TraceId) (value : Json) :
    ofJsonWithin ambient value = ofJsonWithin other value := by
  have same : finish ambient = finish other := funext (finish_ambient ambient other)
  unfold ofJsonWithin
  rw [same]

/-- Problems as JSON, whatever the ambient trace id. A written problem is read back as it was exactly
when its trace id is not blank and its details are not null; a blank trace id is refused, and null
details are dropped. Whatever can be read is read again from what is written of it, with the trace
id in the value. -/
theorem problem_round_trip (ambient : Option TraceId) :
    (∀ problem : Problem,
      (ofJsonWithin ambient problem.toJson = .ok problem ↔
        (∀ id, problem.traceId = some id → Text.isBlankText id = false) ∧
          problem.details ≠ some .null) ∧
      (∀ id, problem.traceId = some id → Text.isBlankText id = true →
        ofJsonWithin ambient problem.toJson =
          .error (.refused ProblemError.emptyTraceId.message)) ∧
      ((∀ id, problem.traceId = some id → Text.isBlankText id = false) →
        problem.details = some .null →
        ofJsonWithin ambient problem.toJson = .ok { problem with details := none })) ∧
    ∀ value problem, ofJsonWithin ambient value = .ok problem →
      ofJsonWithin ambient problem.toJson = .ok problem ∧
        problem.traceId = givenTraceId value ∧
        ∀ other, ofJsonWithin other value = .ok problem := by
  constructor
  · intro problem
    rw [ofJsonWithin_toJson, ← unblank_iff]
    refine ⟨?_, ?_, ?_⟩
    · cases unblank : problem.traceId.any Text.isBlankText with
      | true => simp
      | false =>
        rw [← bind_detailsOf_eq_iff]
        obtain ⟨code, message, traceId, details, visible⟩ := problem
        simp
    · intro id traced blank
      rw [traced, Option.any_some, if_pos blank]
    · intro unblank dropped
      rw [unblank, dropped]
      rfl
  · intro value problem read
    obtain ⟨traced, details, unblank⟩ := ofJsonWithin_ok read
    refine ⟨?_, traced, ?_⟩
    · rw [ofJsonWithin_toJson, unblank, bind_detailsOf_eq_iff.mpr details]
      rfl
    · intro other
      rw [← read]
      exact ofJsonWithin_ambient other ambient value

def missingPage : Problem :=
  ⟨.notFound, "missing", none, none, by decide⟩

/-- An array without a trace id is read while one is ambient, and null details are dropped. -/
theorem problem_round_trip_ambient :
    ofJsonWithin (some ⟨⟨5⟩⟩) (.arr [.str "not_found", .str "missing"]) = .ok missingPage ∧
      ofJsonWithin (some ⟨⟨5⟩⟩) missingPage.toJson = .ok missingPage ∧
      missingPage.traceId = givenTraceId (.arr [.str "not_found", .str "missing"]) ∧
      ofJsonWithin (some ⟨⟨5⟩⟩) (missingPage.withDetails .null).toJson = .ok missingPage ∧
      ofJsonWithin (some ⟨⟨5⟩⟩) (missingPage.withTraceId " ").toJson =
        .error (.refused ProblemError.emptyTraceId.message) := by
  obtain ⟨written, reread⟩ := problem_round_trip (some ⟨⟨5⟩⟩)
  have read : ofJsonWithin (some ⟨⟨5⟩⟩) (.arr [.str "not_found", .str "missing"]) =
      .ok missingPage := rfl
  obtain ⟨again, traced, _⟩ := reread _ _ read
  exact ⟨read, again, traced, (written (missingPage.withDetails .null)).2.2 nofun rfl,
    (written (missingPage.withTraceId " ")).2.1 " " rfl (by decide)⟩

end Problem

end Folio
