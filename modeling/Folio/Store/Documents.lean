import Folio.Document

/-!
# The document store

Documents in the order in which they came in.
-/

namespace Folio

/-- Documents, oldest entry first. -/
structure Documents where
  items : List Document

namespace Documents

/-- The store without documents. -/
def empty : Documents := ⟨[]⟩

/-- Adds a document. -/
def insert (documents : Documents) (document : Document) : Documents :=
  ⟨documents.items ++ [document]⟩

/-- Whether a document is at least as new as another. -/
def newerFirst (a b : Document) : Bool :=
  b.createdAt.rank ≤ a.createdAt.rank

/-- The documents that a query matches, newest first; of two equally new ones, the one that came
in earlier. -/
def list (documents : Documents) (query : DocumentQuery) : List Document :=
  (documents.items.filter query.matches).mergeSort newerFirst

end Documents

end Folio
