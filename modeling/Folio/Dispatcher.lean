import Folio.Follow
import Folio.Store.Error
import Folio.Store.Table

/-!
# The event dispatcher

Receivers are connected under ids and get every event in the order in which they were connected,
whatever the others do with it.
-/

namespace Folio

/-- What happens when an event arrives. -/
inductive Receiver where
  /-- The event is written to the log. -/
  | log
  /-- The event is handed to an observer, which may fail. -/
  | observer (label : String) (receive : FollowEvent → Except String Unit)

namespace Receiver

/-- What a receiver answers to an event. -/
def receive : Receiver → FollowEvent → Except String Unit
  | log, _ => .ok ()
  | observer _ receive, event => receive event

/-- The label of an observer. -/
def label? : Receiver → Option String
  | log => none
  | observer label _ => some label

/-- An observer that always fails with the same message, or never fails. -/
def steady (label : String) (failure : Option String) : Receiver :=
  observer label fun _ => failure.elim (.ok ()) .error

end Receiver

/-- Receivers by id. -/
structure Dispatcher where
  receivers : Table String Receiver

namespace Dispatcher

/-- The dispatcher that only writes a log. -/
def initial : Dispatcher := ⟨Table.empty.insert "tracing" .log⟩

/-- Connects a receiver; one that had the id is replaced where it stands. -/
def connect (d : Dispatcher) (id : String) (receiver : Receiver) : Dispatcher :=
  ⟨d.receivers.insert id receiver⟩

/-- Disconnects a receiver, and says whether one was removed. -/
def disconnect (d : Dispatcher) (id : String) : Bool × Dispatcher :=
  let left := d.receivers.erase id
  (left.size < d.receivers.size, ⟨left⟩)

/-- The number of connected receivers. -/
def count (d : Dispatcher) : Nat :=
  d.receivers.size

/-- Hands an event to receivers one after the other and keeps the first failure until all of them
have it. What a receiver does with the event is up to `receive`. -/
def publishTo {m : Type → Type} [Monad m]
    (receive : Receiver → FollowEvent → m (Except String Unit)) (event : FollowEvent) :
    Option ReceiverError → List (String × Receiver) → m (Except ReceiverError Unit)
  | none, [] => pure (.ok ())
  | some failure, [] => pure (.error failure)
  | first, (id, receiver) :: rest => do
    match ← receive receiver event with
    | .ok () => publishTo receive event first rest
    | .error reason => publishTo receive event (some (first.getD ⟨id, reason⟩)) rest

/-- Publishes an event to the receivers that are connected now. -/
def publishWith {m : Type → Type} [Monad m]
    (receive : Receiver → FollowEvent → m (Except String Unit)) (d : Dispatcher)
    (event : FollowEvent) : m (Except ReceiverError Unit) :=
  publishTo receive event none d.receivers.entries

/-- Publishes an event to receivers that do nothing but answer. -/
def publish (d : Dispatcher) (event : FollowEvent) : Except ReceiverError Unit :=
  Id.run (d.publishWith (fun receiver event => pure (receiver.receive event)) event)

/-- An event handed to a receiver, and what the receiver answered. -/
structure Delivery where
  id : String
  receiver : Receiver
  event : FollowEvent
  answer : Except String Unit

/-- What publishing an event hands to every receiver. -/
def deliver (d : Dispatcher) (event : FollowEvent) : List Delivery :=
  d.receivers.entries.map fun (id, receiver) => ⟨id, receiver, event, receiver.receive event⟩

end Dispatcher

end Folio
