import Folio.Follow
import Folio.Store.Error

/-!
# The follow store

The set of follow edges.
-/

namespace Folio

/-- Follow edges, each at most once. -/
structure Follows where
  edges : List FollowEdge

namespace Follows

/-- The store without edges. -/
def empty : Follows := ⟨[]⟩

/-- Whether an edge is stored. -/
def contains (follows : Follows) (edge : FollowEdge) : Bool :=
  follows.edges.contains edge

/-- Adds an edge unless it is there. -/
def insert (follows : Follows) (edge : FollowEdge) : Except FollowStoreError Unit × Follows :=
  if follows.contains edge then (.error .alreadyExists, follows)
  else (.ok (), ⟨follows.edges ++ [edge]⟩)

/-- Removes an edge, and says whether it was there. -/
def delete (follows : Follows) (edge : FollowEdge) : Bool × Follows :=
  (follows.contains edge, ⟨follows.edges.filter (· ≠ edge)⟩)

/-- The number of edges. -/
def size (follows : Follows) : Nat :=
  follows.edges.length

end Follows

end Folio
