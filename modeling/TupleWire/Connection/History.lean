/-
  The history of a connection.

  A run says where a connection ends up and what came of it altogether; its
  history says the same moment by moment: on which connection something was
  done, what whoever did it got back, and which effects it had.  A run is no more
  than its history (`effects_run`).
-/
import TupleWire.Connection.Action

set_option autoImplicit false

namespace TupleWire

/-- A moment in the life of a connection: something happens to it. -/
structure Moment where
  /-- the connection before it happens -/
  conn : Connection
  now : Nat
  action : Action

namespace Moment

/-- What whoever acts gets back. -/
def result (m : Moment) : Except ClientError Receipt := (m.conn.act m.now m.action).1

/-- The connection after it has happened. -/
def after (m : Moment) : Connection := (m.conn.act m.now m.action).2.1

def effects (m : Moment) : List Effect := (m.conn.act m.now m.action).2.2

end Moment

namespace Connection

/-- The moments of a run, in order. -/
def history (c : Connection) : List (Nat × Action) → List Moment
  | [] => []
  | (now, action) :: rest =>
      let m : Moment := ⟨c, now, action⟩
      m :: history m.after rest

end Connection

end TupleWire
