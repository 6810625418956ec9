import Folio.Proofs.Time.Instant
import Folio.Store.Documents
import Mathlib.Data.List.Nodup

/-!
# Laws of the document store

What the listing for a viewer depends on, and its order. `list_eq_of_shown` says that a listing for
anybody but one user does not depend on the private documents of that user. `list_perm`,
`list_newestFirst` and `list_filter_instant` say what is listed and where it stands.
-/

namespace Folio

/-- A private document of a user. -/
def Document.isHidden (document : Document) (owner : UserId) : Bool :=
  document.owner == owner && !document.isPublic

theorem DocumentQuery.matches_iff {query : DocumentQuery} {document : Document} :
    query.matches document = true ↔
      document.owner = query.owner ∧
        (document.isPublic = true ∨ query.viewer = some query.owner) := by
  unfold DocumentQuery.matches Document.isVisibleTo
  simp only [Bool.and_eq_true, Bool.or_eq_true, beq_iff_eq]
  refine and_congr_right fun owned => ?_
  rw [owned]

namespace Documents

/-- The documents without the private ones of a user. -/
def shown (documents : Documents) (owner : UserId) : List Document :=
  documents.items.filter fun document => !document.isHidden owner

theorem not_hidden_of_matches {query : DocumentQuery} {document : Document} {owner : UserId}
    (stranger : query.viewer ≠ some owner) (listed : query.matches document = true) :
    document.isHidden owner = false := by
  unfold DocumentQuery.matches Document.isVisibleTo at listed
  unfold Document.isHidden
  by_cases own : document.owner = owner
  · subst own
    simp [stranger] at listed
    simp [listed.2]
  · simp [own]

theorem filter_shown {query : DocumentQuery} {owner : UserId}
    (stranger : query.viewer ≠ some owner) (documents : Documents) :
    (documents.shown owner).filter query.matches = documents.items.filter query.matches := by
  unfold shown
  rw [List.filter_filter]
  refine List.filter_congr ?_
  intro document _
  cases listed : query.matches document with
  | false => rfl
  | true => simp [not_hidden_of_matches stranger listed]

/-- Two stores that differ in private documents of a user only are listed alike to anybody else. -/
theorem list_eq_of_shown {a b : Documents} {query : DocumentQuery} {owner : UserId}
    (same : a.shown owner = b.shown owner) (stranger : query.viewer ≠ some owner) :
    a.list query = b.list query := by
  unfold list
  rw [← filter_shown stranger a, same, filter_shown stranger b]

/-! ### The order of a listing -/

/-- No document stands before a newer one. -/
def NewestFirst (documents : List Document) : Prop :=
  documents.Pairwise fun a b => ¬a.createdAt.Before b.createdAt

theorem newerFirst_iff {a b : Document} :
    newerFirst a b = true ↔ ¬a.createdAt.Before b.createdAt := by
  unfold newerFirst
  rw [decide_eq_true_eq, ← Time.Instant.rank_lt_iff, Int.not_lt]

theorem newerFirst_trans (a b c : Document) (first : newerFirst a b = true)
    (second : newerFirst b c = true) : newerFirst a c = true := by
  unfold newerFirst at *
  simp only [decide_eq_true_eq] at *
  omega

theorem newerFirst_total (a b : Document) : (newerFirst a b || newerFirst b a) = true := by
  unfold newerFirst
  simp only [Bool.or_eq_true, decide_eq_true_eq]
  omega

theorem list_perm (documents : Documents) (query : DocumentQuery) :
    (documents.list query).Perm (documents.items.filter query.matches) :=
  List.mergeSort_perm _ _

theorem list_newestFirst (documents : Documents) (query : DocumentQuery) :
    NewestFirst (documents.list query) :=
  (List.pairwise_mergeSort newerFirst_trans newerFirst_total _).imp newerFirst_iff.mp

/-- Documents of one instant are listed in the order in which they came in. -/
theorem list_filter_instant (documents : Documents) (query : DocumentQuery) (t : Time.Instant) :
    (documents.list query).filter (fun document => document.createdAt = t) =
      (documents.items.filter query.matches).filter (fun document => document.createdAt = t) := by
  unfold list
  generalize documents.items.filter query.matches = found
  have equals : (found.filter fun document => document.createdAt = t).Pairwise
      fun a b => newerFirst a b = true := by
    refine List.pairwise_of_forall_mem_list ?_
    intro a a_found b b_found
    have a_at := (List.mem_filter.mp a_found).2
    have b_at := (List.mem_filter.mp b_found).2
    simp only [decide_eq_true_eq] at a_at b_at
    simp [newerFirst, a_at, b_at]
  -- Sorting keeps documents of one instant as they are, and it neither adds nor drops any.
  have kept := (List.sublist_mergeSort newerFirst_trans newerFirst_total equals
    List.filter_sublist).filter (fun document => document.createdAt = t)
  simp only [List.filter_filter, Bool.and_self] at kept
  exact (kept.eq_of_length ((List.mergeSort_perm found _).filter _).length_eq.symm).symm

/-- The order of documents is settled by their instants when no two are equal. -/
theorem eq_of_newestFirst {a b : List Document} (same : a.Perm b) (first : NewestFirst a)
    (second : NewestFirst b) (distinct : (b.map (·.createdAt)).Nodup) : a = b := by
  refine List.Perm.eq_of_pairwise ?_ first second same
  intro x y x_listed y_listed not_before not_after
  rw [← Time.Instant.rank_lt_iff, Int.not_lt] at not_before not_after
  have together : x.createdAt = y.createdAt :=
    Time.Instant.eq_of_rank_eq (Int.le_antisymm not_after not_before)
  exact List.inj_on_of_nodup_map distinct (same.mem_iff.mp x_listed) y_listed together

end Documents

end Folio
