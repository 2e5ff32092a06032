/-
  Connections that share what the connections of one client share.

  Each connection keeps its own books of what is pending; the registry, the
  newest schema version and the queue of notifications are there once.  A fleet
  only grows: a connection that has come to its end stays in it.
-/
import TupleWire.Connection.History

set_option autoImplicit false

namespace TupleWire

/-- Connections and what they share. -/
structure Fleet where
  conns : List Connection
  shared : Shared

namespace Fleet

/-- Something that happens to a fleet. -/
inductive Event where
  /-- a connection is made -/
  | spawn (tag : String) (index : Nat) (salt : Bytes) (requestTimeout : Duration)
  /-- something happens to one of the connections -/
  | act (conn : Nat) (now : Nat) (action : Action)

/-- What an event is to the connection that it is about, if there is such a connection. -/
def moment? (f : Fleet) : Event → Option Moment
  | .spawn _ _ _ _ => none
  | .act n now action => f.conns[n]?.map fun c => ⟨c, now, action⟩

/-- Takes an event into account. -/
def step (f : Fleet) : Event → Fleet
  | .spawn tag index salt requestTimeout =>
      { f with conns := f.conns ++ [{ tag, index, salt, requestTimeout }] }
  | .act n now action =>
      match f.conns[n]? with
      | none => f
      | some c =>
          let m : Moment := ⟨c, now, action⟩
          ⟨f.conns.set n m.after, f.shared.applyAll m.effects⟩

/-- Takes events into account, one after the other. -/
def run (f : Fleet) (events : List Event) : Fleet := events.foldl step f

/-- The moments of a run, in order, on whichever connection. -/
def history (f : Fleet) : List Event → List Moment
  | [] => []
  | event :: rest => (f.moment? event).toList ++ history (f.step event) rest

end Fleet

end TupleWire
