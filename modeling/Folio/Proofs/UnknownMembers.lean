import Folio.Proofs.Problem.Codec
import Folio.User

/-!
# Members that a record does not have

An object with any member besides the two of a user is no user. A problem is read past the members
that no problem has, as if they were not there. `unknown_members` says both.
-/

namespace Folio

theorem Json.exists_error_of_not_ok {α : Type} {read : Except DecodeError α}
    (refused : ∀ a, read ≠ .ok a) : ∃ e, read = .error e := by
  cases read with
  | ok a => exact (refused a rfl).elim
  | error e => exact ⟨e, rfl⟩

namespace User

/-- The members of a user. -/
def memberNames : List String := ["id", "username"]

theorem mem_memberNames_of_ofMembers {id : Option UserId} {username : Option Username}
    {members : List (String × Json)} {user : User}
    (read : ofMembers id username members = .ok user) :
    ∀ member ∈ members, member.1 ∈ memberNames := by
  fun_induction ofMembers id username members with
  | case3 id username => simp
  | case5 id username value rest fresh ih =>
    obtain ⟨own, _, later⟩ := bind_eq_ok_iff.mp read
    exact List.forall_mem_cons.mpr ⟨by simp [memberNames], ih own later⟩
  | case7 id username value rest fresh _ ih =>
    obtain ⟨name, _, later⟩ := bind_eq_ok_iff.mp read
    exact List.forall_mem_cons.mpr ⟨by simp [memberNames], ih name later⟩
  | case1 | case2 | case4 | case6 | case8 => cases read

end User

namespace Problem

open Draft

/-- The members of a problem, the trace id under both of its names. -/
def memberNames : List String := ["code", "message", "traceId", "trace_id", "details"]

theorem readMembers_foreign {member : String × Json} (foreign : member.1 ∉ memberNames)
    (draft : Draft) (rest : List (String × Json)) :
    draft.readMembers (member :: rest) = draft.readMembers rest := by
  simp only [memberNames, List.mem_cons, List.not_mem_nil, or_false, not_or] at foreign
  rw [readMembers]
  simp [foreign]

/-- What a member adds does not depend on the members after it. -/
theorem readMembers_cons_congr {one other : List (String × Json)}
    (same : ∀ draft : Draft, draft.readMembers one = draft.readMembers other)
    (member : String × Json) (draft : Draft) :
    draft.readMembers (member :: one) = draft.readMembers (member :: other) := by
  rw [readMembers, readMembers]
  simp only [same]

theorem readMembers_filter (members : List (String × Json)) (draft : Draft) :
    draft.readMembers members =
      draft.readMembers (members.filter fun member => member.1 ∈ memberNames) := by
  induction members generalizing draft with
  | nil => rfl
  | cons member rest ih =>
    by_cases known : member.1 ∈ memberNames
    · rw [List.filter_cons_of_pos (by simpa using known)]
      exact readMembers_cons_congr ih member draft
    · rw [List.filter_cons_of_neg (by simpa using known), readMembers_foreign known]
      exact ih draft

end Problem

/-- An object with a member that no user has is refused as a user. As a problem an object is read
exactly as it is without the members that no problem has. -/
theorem unknown_members (members : List (String × Json)) (ambient : Option TraceId) :
    ((∃ member ∈ members, member.1 ∉ User.memberNames) →
      ∃ e, User.ofJson (.obj members) = .error e) ∧
    Problem.ofJsonWithin ambient (.obj members) =
      Problem.ofJsonWithin ambient
        (.obj (members.filter fun member => member.1 ∈ Problem.memberNames)) := by
  constructor
  · rintro ⟨member, present, foreign⟩
    apply Json.exists_error_of_not_ok
    intro user read
    exact foreign (User.mem_memberNames_of_ofMembers read member present)
  · show (Problem.Draft.readMembers {} members >>= _) = (Problem.Draft.readMembers {} _ >>= _)
    rw [Problem.readMembers_filter members {}]

def evaAndPassword : List (String × Json) :=
  [("id", .str "00000000-0000-0000-0000-000000000009"), ("password", .str "pw"),
   ("username", .str "eva")]

def missingAndMore : List (String × Json) :=
  [("code", .str "not_found"), ("extra", .int 1), ("message", .str "missing")]

/-- A user with a password beside is refused, and a problem with something beside is not. -/
theorem unknown_members_beside :
    (∃ member ∈ evaAndPassword, member.1 ∉ User.memberNames) ∧
      (∃ e, User.ofJson (.obj evaAndPassword) = .error e) ∧
      Problem.ofJsonWithin none (.obj missingAndMore) =
        Problem.ofJsonWithin none
          (.obj [("code", .str "not_found"), ("message", .str "missing")]) := by
  have foreign : ∃ member ∈ evaAndPassword, member.1 ∉ User.memberNames :=
    ⟨("password", .str "pw"), by simp [evaAndPassword], by decide⟩
  exact ⟨foreign, (unknown_members evaAndPassword none).1 foreign,
    (unknown_members missingAndMore none).2⟩

/-- A problem is read although the object has a member that no problem has. -/
theorem unknown_member_accepted :
    "extra" ∉ Problem.memberNames ∧
      ∃ problem, Problem.ofJson (.obj missingAndMore) = .ok problem :=
  ⟨by decide, _, rfl⟩

end Folio
