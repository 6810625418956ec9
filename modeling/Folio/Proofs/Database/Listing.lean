import Folio.Proofs.Database.Conforming
import Folio.Proofs.Store.Documents
import Mathlib.Data.List.Perm.Basic
import Mathlib.Data.Set.List

/-!
# Listing documents from a database

In memory, every document is asked whether the viewer may see it. In a database, the query says
once whether it wants private documents. `document_stores_agree` says that both list the same
documents, newest first.
-/

namespace Folio.Database

/-- The row of a document. -/
def documentRow (document : Document) : Row
  | .id => .uuid document.id
  | .userId => .uuid document.owner.uuid
  | .title => .text document.title
  | .isPublic => .bool document.isPublic
  | .createdAt => .time document.createdAt
  | _ => .null

variable {query : DocumentQuery}

theorem readDocument_row (document : Document) :
    readDocument ((documentRow document).project (selectDocuments query).columns) = .ok document :=
  rfl

theorem documentRow_injective : Function.Injective documentRow := by
  intro a b same
  have read := @readDocument_row ⟨a.owner, none⟩ a
  rw [same, readDocument_row] at read
  exact (Except.ok.inj read).symm

theorem mapM_readDocument (documents : List Document) :
    ((documents.map documentRow).map fun row =>
      row.project (selectDocuments query).columns).mapM readDocument = .ok documents := by
  induction documents with
  | nil => rfl
  | cons document rest ih =>
    rw [List.map_cons, List.map_cons, List.mapM_cons, readDocument_row, ih]
    rfl

theorem documentRow_owned (document : Document) :
    documentRow document .userId = .uuid query.owner.uuid ↔ document.owner = query.owner := by
  show Cell.uuid document.owner.uuid = .uuid query.owner.uuid ↔ _
  rw [Cell.uuid.injEq]
  exact ⟨fun same => congrArg UserId.mk same, fun same => congrArg UserId.uuid same⟩

theorem documentRow_meets (document : Document) :
    (documentRow document).meets (selectDocuments query).conditions = query.matches document := by
  rw [Bool.eq_iff_iff, DocumentQuery.matches_iff, ← documentRow_owned]
  by_cases own : query.viewer = some query.owner
  · have conditions : (selectDocuments query).conditions =
        [⟨.userId, .uuid query.owner.uuid⟩] := by
      simp [selectDocuments, DocumentQuery.includesPrivate, own]
    rw [conditions, meets_iff (by simp)]
    simp [own]
  · have conditions : (selectDocuments query).conditions =
        [⟨.userId, .uuid query.owner.uuid⟩, ⟨.isPublic, .bool true⟩] := by
      simp [selectDocuments, DocumentQuery.includesPrivate, own]
    rw [conditions, meets_iff (by simp)]
    simp [documentRow, own]

/-- The rows that a database may give for the documents of a query are rows of these documents. -/
theorem admitted_documents {items : List Document} {rows : List Row} {found : List (List Cell)}
    (stored : rows.Perm (items.map documentRow))
    (admits : (selectDocuments query).Admits rows found) :
    ∃ listed : List Document, found.mapM readDocument = .ok listed
      ∧ listed.Perm (items.filter query.matches) ∧ Documents.NewestFirst listed := by
  obtain ⟨ordered, perm, sorted, rfl⟩ := admits
  have filtered : (items.map documentRow).filter
      (fun row => row.meets (selectDocuments query).conditions) =
      (items.filter query.matches).map documentRow := by
    rw [List.filter_map]
    refine congrArg _ (List.filter_congr ?_)
    intro document _
    exact documentRow_meets document
  replace perm := perm.trans (filtered ▸ stored.filter _)
  -- Every row that is given is the row of some document, so the rows can be read back.
  obtain ⟨listed, rfl⟩ : ordered ∈ Set.range (List.map documentRow) := by
    rw [Set.range_list_map]
    intro row member
    obtain ⟨document, _, same⟩ := List.mem_map.mp (perm.mem_iff.mp member)
    exact ⟨document, same⟩
  refine ⟨listed, mapM_readDocument listed, (List.map_perm_map_iff documentRow_injective).mp perm,
    ?_⟩
  have newest := List.pairwise_map.mp (sorted .createdAt rfl)
  exact newest.imp fun later => Documents.newerFirst_iff.mp later

/-- A database that holds the documents of a store, in whatever order, lists them as the store
does: the same documents, newest first, and in the same order unless two are equally new. -/
theorem document_stores_agree {σ : Type} {send : Statement → σ → Reply × σ} {tables : σ → Tables}
    (conforms : Conforms send tables) (otherwise : (c : Call) → σ → c.Reply × σ)
    (documents : Documents) (s : σ)
    (stored : ((tables s).rows .documents).Perm (documents.items.map documentRow))
    (query : DocumentQuery) :
    ∃ listed, (answer none send otherwise (.listDocuments query) s).1 = .ok listed
      ∧ listed.Perm (documents.list query)
      ∧ Documents.NewestFirst listed
      ∧ Documents.NewestFirst (documents.list query)
      ∧ (((documents.list query).map (·.createdAt)).Nodup → listed = documents.list query) := by
  obtain ⟨result, replied, admits, _⟩ := conforms.selects (selectDocuments query) s
  obtain ⟨listed, read, perm, newest⟩ := admitted_documents stored admits
  have same : listed.Perm (documents.list query) := perm.trans (documents.list_perm query).symm
  have ordered := documents.list_newestFirst query
  refine ⟨listed, ?_, same, newest, ordered, Documents.eq_of_newestFirst same newest ordered⟩
  show documentsFound (send (.select (selectDocuments query)) s).1 = .ok listed
  rw [replied]
  exact read

/-- The instants of one second. -/
def newYear (nano : Fin 1000000000) : Time.Instant :=
  ⟨⟨2024, 1, 1⟩, 1, 2, 3, nano, by decide, by decide, by decide, by decide, nano.isLt⟩

/-- Documents of two users that came in within a second, not in the order of their instants. -/
def shelf : Documents where
  items := [
    ⟨⟨1⟩, ⟨⟨1⟩⟩, "first", true, newYear 1⟩,
    ⟨⟨2⟩, ⟨⟨1⟩⟩, "secret", false, newYear 2⟩,
    ⟨⟨4⟩, ⟨⟨2⟩⟩, "elsewhere", true, newYear 4⟩,
    ⟨⟨3⟩, ⟨⟨1⟩⟩, "third", true, newYear 3⟩]

/-- Tables that hold these documents the other way round. -/
def shelfTables : Tables := Tables.empty.put .documents (shelf.items.reverse.map documentRow)

theorem document_stores_agree_stranger :
    (answer none (Tables.execute (newYear 5)) besideTables
      (.listDocuments ⟨⟨⟨1⟩⟩, some ⟨⟨2⟩⟩⟩) shelfTables).1 =
      .ok [⟨⟨3⟩, ⟨⟨1⟩⟩, "third", true, newYear 3⟩, ⟨⟨1⟩, ⟨⟨1⟩⟩, "first", true, newYear 1⟩] := by
  have listed : shelf.list ⟨⟨⟨1⟩⟩, some ⟨⟨2⟩⟩⟩ =
      [⟨⟨3⟩, ⟨⟨1⟩⟩, "third", true, newYear 3⟩, ⟨⟨1⟩, ⟨⟨1⟩⟩, "first", true, newYear 1⟩] := by
    refine Documents.eq_of_newestFirst ((shelf.list_perm _).trans (by decide))
      (shelf.list_newestFirst _) ?_ (by decide)
    exact List.pairwise_pair.mpr (Documents.newerFirst_iff.mp (by decide))
  obtain ⟨_, answered, _, _, _, equal⟩ := document_stores_agree
    (execute_conforms (newYear 5)) besideTables shelf shelfTables
    ((List.reverse_perm shelf.items).map documentRow) ⟨⟨⟨1⟩⟩, some ⟨⟨2⟩⟩⟩
  rw [answered, equal (by rw [listed]; decide), listed]

end Folio.Database
