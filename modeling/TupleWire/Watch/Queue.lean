/-
  Notifications of watched keys on their way to the callbacks.

  Callbacks run apart from the connections.  What connections notify of waits in
  a bounded queue; a notification that finds the queue full is dropped.
-/
import TupleWire.MsgPack.Value

set_option autoImplicit false

namespace TupleWire

/-- A notification of a watched key. -/
structure WatchEvent where
  key : String
  /-- the current value; none if the key is not set -/
  data : Option Value
  /-- the tag and index of the connection it came in on -/
  tag : String
  index : Nat
  deriving DecidableEq

/-- What a watch calls; callbacks are told apart by their numbers. -/
structure WatchCallback where
  id : Nat
  deriving DecidableEq, Repr, Inhabited

/-- The notifications that wait for their callbacks, the oldest first. -/
structure WatchQueue where
  capacity : Nat
  waiting : List (WatchCallback × WatchEvent)
  deriving DecidableEq

namespace WatchQueue

/-- An empty queue; it holds at least one notification. -/
def ofCapacity (capacity : Nat) : WatchQueue := ⟨max capacity 1, []⟩

instance : Inhabited WatchQueue := ⟨ofCapacity 256⟩

def isFull (q : WatchQueue) : Bool := q.capacity ≤ q.waiting.length

/-- Adds a notification unless the queue is full. -/
def push (q : WatchQueue) (callback : WatchCallback) (event : WatchEvent) : WatchQueue :=
  if q.isFull then q else { q with waiting := q.waiting ++ [(callback, event)] }

/-- Calls the callbacks: everything that waits is delivered, in order. -/
def deliver (q : WatchQueue) : List (WatchCallback × WatchEvent) × WatchQueue :=
  (q.waiting, { q with waiting := [] })

/-- The wording of a queue. -/
def describe (q : WatchQueue) : String :=
  "WatchDispatcher \x7b capacity: " ++ toString q.capacity ++ " \x7d"

end WatchQueue

end TupleWire
