import Folio.Dispatcher
import Folio.Password.Hasher
import Folio.Program
import Folio.Store.Documents
import Folio.Store.Follows
import Folio.Store.Users

/-!
# The world in memory

The stores and the dispatcher, and how they answer the calls of a program. `Faults.answer` puts
failures in the way of chosen calls.
-/

namespace Folio

/-- Everything that services act on. -/
structure World where
  users : Users
  follows : Follows
  documents : Documents
  dispatcher : Dispatcher

namespace World

/-- The world without users, edges and documents. -/
def initial : World := ⟨.empty, .empty, .empty, .initial⟩

/-- Answers a call; `salt` is for a password to hash. -/
def answer (hasher : Password.Hasher) (salt : List UInt8) :
    (c : Call) → World → c.Reply × World
  | .createUser user hash, w =>
    let (reply, users) := w.users.create user hash
    (reply, { w with users })
  | .findUser id, w => (.ok (w.users.find? id), w)
  | .findUsername username, w => (.ok (w.users.findUsername? username), w)
  | .findCredentials username, w => (.ok (w.users.credentials? username), w)
  | .readGeneration id, w => (.ok (w.users.generation? id), w)
  | .advanceGeneration id, w => (.ok (), { w with users := w.users.advance id })
  | .edgeExists edge, w => (.ok (w.follows.contains edge), w)
  | .insertEdge edge, w =>
    let (reply, follows) := w.follows.insert edge
    (reply, { w with follows })
  | .deleteEdge edge, w =>
    let (removed, follows) := w.follows.delete edge
    (.ok removed, { w with follows })
  | .listDocuments query, w => (.ok (w.documents.list query), w)
  | .hashPassword password, w => (hasher.hash salt password, w)
  | .verifyPassword password hash, w => (hasher.verify password hash, w)
  | .publish event, w => (w.dispatcher.publish event, w)

end World

/-- A store method that can be made to fail. -/
inductive StoreMethod where
  | createUser
  | findUser
  | findUsername
  | findCredentials
  | readGeneration
  | advanceGeneration
  | edgeExists
  | insertEdge
  | deleteEdge
  | listDocuments
  deriving DecidableEq, Repr

/-- What happens in the place of a store method. -/
inductive Fault where
  | connection (message : String)
  | query (message : String)
  | usernameTaken (username : String)
  | alreadyExists
  /-- The method succeeds and does nothing; a truth value is answered with `value`. -/
  | skip (value : Bool)
  deriving DecidableEq, Repr

namespace Fault

variable {α : Type}

/-- The fault as an answer of the user store. -/
def userReply (nothing : α) : Fault → Except UserStoreError α
  | connection message => .error (.connection message)
  | query message => .error (.query message)
  | usernameTaken username => .error (.usernameTaken username)
  | alreadyExists | skip _ => .ok nothing

/-- The fault as an answer of the follow store. -/
def followReply (ofBool : Bool → α) : Fault → Except FollowStoreError α
  | connection message => .error (.connection message)
  | query message => .error (.query message)
  | alreadyExists => .error .alreadyExists
  | usernameTaken _ => .ok (ofBool false)
  | skip value => .ok (ofBool value)

/-- The fault as an answer of the document store. -/
def documentReply : Fault → Except DocumentStoreError (List Document)
  | connection message => .error (.connection message)
  | query message => .error (.query message)
  | usernameTaken _ | alreadyExists | skip _ => .ok []

end Fault

/-- The faults in force, by method. -/
abbrev Faults := List (StoreMethod × Fault)

namespace Faults

/-- The reply that a fault gives in the place of a store. -/
def reply? (faults : Faults) : (c : Call) → Option c.Reply
  | .createUser _ _ => (faults.lookup .createUser).map (Fault.userReply ())
  | .findUser _ => (faults.lookup .findUser).map (Fault.userReply none)
  | .findUsername _ => (faults.lookup .findUsername).map (Fault.userReply none)
  | .findCredentials _ => (faults.lookup .findCredentials).map (Fault.userReply none)
  | .readGeneration _ => (faults.lookup .readGeneration).map (Fault.userReply none)
  | .advanceGeneration _ => (faults.lookup .advanceGeneration).map (Fault.userReply ())
  | .edgeExists _ => (faults.lookup .edgeExists).map (Fault.followReply id)
  | .insertEdge _ => (faults.lookup .insertEdge).map (Fault.followReply fun _ => ())
  | .deleteEdge _ => (faults.lookup .deleteEdge).map (Fault.followReply id)
  | .listDocuments _ => (faults.lookup .listDocuments).map Fault.documentReply
  | .hashPassword _ | .verifyPassword _ _ | .publish _ => none

/-- Answers a call by a fault, or else as `answer` does. -/
def answer {σ : Type} (faults : Faults) (answer : (c : Call) → σ → c.Reply × σ) (c : Call)
    (s : σ) : c.Reply × σ :=
  match faults.reply? c with
  | some reply => (reply, s)
  | none => answer c s

end Faults

end Folio
