import Folio.Store.Follows
import Mathlib.Data.Set.Insert

/-!
# The follow store as a set

The stored edges as a set, what each change does to it, and how a history of announcements is
played back into such a set.
-/

namespace Folio

namespace Follows

variable {follows : Follows}

def edgeSet (follows : Follows) : Set FollowEdge :=
  {edge | follows.contains edge = true}

theorem mem_edgeSet {edge : FollowEdge} :
    edge ∈ follows.edgeSet ↔ follows.contains edge = true := Iff.rfl

theorem edgeSet_empty : empty.edgeSet = ∅ := by
  ext edge
  simp [edgeSet, empty, contains]

def added (follows : Follows) (edge : FollowEdge) : Follows :=
  ⟨follows.edges ++ [edge]⟩

theorem insert_absent {edge : FollowEdge} (absent : follows.contains edge = false) :
    follows.insert edge = (.ok (), follows.added edge) := by
  unfold insert
  rw [if_neg (by simp [absent])]
  rfl

theorem insert_stored {edge : FollowEdge} (stored : follows.contains edge = true) :
    follows.insert edge = (.error .alreadyExists, follows) := by
  unfold insert
  rw [if_pos stored]

theorem contains_added (follows : Follows) (edge other : FollowEdge) :
    (follows.added edge).contains other =
      if edge = other then true else follows.contains other := by
  by_cases same : edge = other
  · subst same
    simp [contains, added]
  · simp [contains, added, same, Ne.symm same]

theorem contains_delete (follows : Follows) (edge other : FollowEdge) :
    (follows.delete edge).2.contains other =
      if edge = other then false else follows.contains other := by
  by_cases same : edge = other
  · subst same
    simp [contains, delete]
  · simp [contains, delete, same, Ne.symm same]

theorem edgeSet_added (edge : FollowEdge) :
    (follows.added edge).edgeSet = Insert.insert edge follows.edgeSet := by
  ext other
  simp [edgeSet, added, contains, or_comm]

theorem edgeSet_delete (edge : FollowEdge) :
    (follows.delete edge).2.edgeSet = follows.edgeSet \ {edge} := by
  ext other
  simp [edgeSet, delete, contains]

end Follows

/-- What an announcement does to a set of edges. -/
def FollowEvent.apply (edges : Set FollowEdge) (event : FollowEvent) : Set FollowEdge :=
  match event.change with
  | .followed => Insert.insert event.edge edges
  | .unfollowed => edges \ {event.edge}

/-- The edges that a history of announcements leaves, starting from none. -/
def replay (events : List FollowEvent) : Set FollowEdge :=
  events.foldl FollowEvent.apply ∅

theorem replay_append (before after : List FollowEvent) :
    replay (before ++ after) = after.foldl FollowEvent.apply (replay before) :=
  List.foldl_append

end Folio
